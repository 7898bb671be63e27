import SqlBuilder.Rendering.Layout

/-!
# Rendering nested statements

The text of a statement, from the texts of the statements nested in it. A nested statement stands
as it is where it is derived and in parentheses where it is a value or a condition.
-/
namespace SqlBuilder

mutual

/-- The text of a statement, or why it has none. -/
def Statement.render (p : Pagination) : Statement → Except Error String
  | s@⟨_, _, _, _, selectList, source, _, joins, conditions, _, groupConditions, _, _, _, _,
      payload, unionMembers, ctes, _, _⟩ =>
    s.text p
      { ctes := Cte.renderAll p ctes
        selectList := Operand.renderAll p selectList
        source := Operand.renderOptional p source
        joins := Join.renderAll p joins
        conditions := Condition.renderAll p conditions
        groupConditions := Condition.renderAll p groupConditions
        values := Payload.renderValues p payload
        rows := Payload.renderRows p payload
        unionMembers := UnionMember.renderAll p unionMembers }

/-- An operand that stands by itself. -/
def Operand.render (p : Pagination) : Operand → Except Error String
  | .sql text => .ok text
  | .nested statement => statement.render p

/-- An operand inside an expression. -/
def Operand.renderValue (p : Pagination) : Operand → Except Error String
  | .sql text => .ok text
  | .nested statement => do return Layout.parenthesized (← statement.render p)

def Operand.renderAll (p : Pagination) : List Operand → Except Error (List String)
  | [] => .ok []
  | operand :: rest => do return (← operand.render p) :: (← Operand.renderAll p rest)

def Operand.renderOptional (p : Pagination) : Option Operand → Except Error (Option String)
  | none => .ok none
  | some operand => do return some (← operand.render p)

def Operand.renderValues (p : Pagination) : List Operand → Except Error (List String)
  | [] => .ok []
  | operand :: rest => do return (← operand.renderValue p) :: (← Operand.renderValues p rest)

/-- The condition of a join; an empty one is left out. -/
def Operand.renderJoinCondition (p : Pagination) : Option Operand → Except Error (Option String)
  | none => .ok none
  | some operand =>
      if operand.isEmpty then .ok none else do return some (← operand.renderValue p)

def Join.renderAll (p : Pagination) : List Join → Except Error (List String)
  | [] => .ok []
  | ⟨form, target, condition⟩ :: rest => do
      let target ← target.render p
      let condition ← Operand.renderJoinCondition p condition
      return Layout.join form target condition :: (← Join.renderAll p rest)

def Condition.renderAll (p : Pagination) : List Condition → Except Error (List String)
  | [] => .ok []
  | ⟨connector, modifier, body⟩ :: rest => do
      let body ← body.renderValue p
      return Layout.condition connector modifier body :: (← Condition.renderAll p rest)

def Payload.renderValues (p : Pagination) : Option Payload → Except Error (List String)
  | some (.positional values) => Operand.renderValues p values
  | some (.named pairs) => Payload.renderPairs p pairs
  | some (.rows _) => .ok []
  | none => .ok []

def Payload.renderPairs (p : Pagination) :
    List (String × Operand) → Except Error (List String)
  | [] => .ok []
  | (_, value) :: rest => do return (← value.renderValue p) :: (← Payload.renderPairs p rest)

def Payload.renderRows (p : Pagination) : Option Payload → Except Error String
  | some (.rows statement) => statement.render p
  | some (.positional _) => .ok ""
  | some (.named _) => .ok ""
  | none => .ok ""

def UnionMember.renderAll (p : Pagination) : List UnionMember → Except Error (List String)
  | [] => .ok []
  | ⟨member, keepDuplicates⟩ :: rest => do
      let text ← member.render p
      return Layout.unionMember keepDuplicates member.arrangesRows text ::
        (← UnionMember.renderAll p rest)

def Cte.renderAll (p : Pagination) : List Cte → Except Error (List String)
  | [] => .ok []
  | ⟨name, columns, body⟩ :: rest => do
      let body ← body.render p
      return Layout.cte name columns body :: (← Cte.renderAll p rest)

end

theorem Statement.render_eq (p : Pagination) (s : Statement) :
    s.render p = s.text p
      { ctes := Cte.renderAll p s.ctes
        selectList := Operand.renderAll p s.selectList
        source := Operand.renderOptional p s.source
        joins := Join.renderAll p s.joins
        conditions := Condition.renderAll p s.conditions
        groupConditions := Condition.renderAll p s.groupConditions
        values := Payload.renderValues p s.payload
        rows := Payload.renderRows p s.payload
        unionMembers := UnionMember.renderAll p s.unionMembers } := by
  cases s
  rfl

end SqlBuilder
