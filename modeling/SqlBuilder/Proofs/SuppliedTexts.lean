import SqlBuilder.Proofs.Nesting

/-!
# The texts of a statement

Everything the caller supplied as text, in clause order and through all nested statements. No field
is left out because of the kind of the statement. Two texts are not promised to be shown and are not
listed: conditions on groups of a statement that has no columns to group by, and the keys of named
values that have an explicit column list.
-/
namespace SqlBuilder

mutual

def Statement.texts : Statement → List String
  | ⟨kind, _, _, _, selectList, source, sourceAlias, joins, conditions, groupColumns,
      groupConditions, orderTerms, _, _, columnList, payload, unionMembers, ctes, _, _⟩ =>
    Cte.textsAll ctes ++ Operand.derivedTextsAll selectList ++
      Operand.derivedTextsOptional source ++ sourceAlias.toList ++ Join.textsAll joins ++
      Payload.texts kind columnList payload ++ Condition.textsAll conditions ++ groupColumns ++
      (if groupColumns.isEmpty then [] else Condition.textsAll groupConditions) ++
      UnionMember.textsAll unionMembers ++ orderTerms.map (·.1)

/-- The texts of an operand that stands under its own name. -/
def Operand.derivedTexts : Operand → List String
  | .sql text => [text]
  | .nested statement => statement.texts ++ statement.aliasName.toList

/-- The texts of an operand inside an expression, where a name is of no use. -/
def Operand.texts : Operand → List String
  | .sql text => [text]
  | .nested statement => statement.texts

def Operand.derivedTextsAll : List Operand → List String
  | [] => []
  | operand :: rest => operand.derivedTexts ++ Operand.derivedTextsAll rest

def Operand.derivedTextsOptional : Option Operand → List String
  | none => []
  | some operand => operand.derivedTexts

def Operand.textsAll : List Operand → List String
  | [] => []
  | operand :: rest => operand.texts ++ Operand.textsAll rest

def Operand.textsOptional : Option Operand → List String
  | none => []
  | some operand => operand.texts

def Join.textsAll : List Join → List String
  | [] => []
  | ⟨_, target, condition⟩ :: rest =>
      target.derivedTexts ++ Operand.textsOptional condition ++ Join.textsAll rest

def Condition.textsAll : List Condition → List String
  | [] => []
  | ⟨_, _, body⟩ :: rest => body.texts ++ Condition.textsAll rest

/-- Columns and values: a SET list pairs them, an INSERT lists all columns first. -/
def Payload.texts (kind : Option Kind) (columnList : Option (List String)) :
    Option Payload → List String
  | none => columnList.getD []
  | some (.positional values) => columnList.getD [] ++ Operand.textsAll values
  | some (.named pairs) =>
      if kind = some .update then columnList.getD [] ++ Payload.assignmentTexts pairs
      else columnList.getD (pairs.map (·.1)) ++ Payload.pairTexts pairs
  | some (.rows statement) => columnList.getD [] ++ statement.texts

def Payload.assignmentTexts : List (String × Operand) → List String
  | [] => []
  | (column, value) :: rest => column :: value.texts ++ Payload.assignmentTexts rest

def Payload.pairTexts : List (String × Operand) → List String
  | [] => []
  | (_, value) :: rest => value.texts ++ Payload.pairTexts rest

def UnionMember.textsAll : List UnionMember → List String
  | [] => []
  | ⟨member, _⟩ :: rest => member.texts ++ UnionMember.textsAll rest

def Cte.textsAll : List Cte → List String
  | [] => []
  | ⟨name, columns, body⟩ :: rest =>
      name :: columns.getD [] ++ body.texts ++ Cte.textsAll rest

end

def Join.texts (join : Join) : List String :=
  join.target.derivedTexts ++ Operand.textsOptional join.condition

def Cte.texts (cte : Cte) : List String := cte.name :: cte.columns.getD [] ++ cte.body.texts

def Payload.assignedTexts (pair : String × Operand) : List String := pair.1 :: pair.2.texts

theorem Operand.derivedTextsAll_eq_flatMap (operands : List Operand) :
    Operand.derivedTextsAll operands = operands.flatMap Operand.derivedTexts := by
  induction operands with
  | nil => rfl
  | cons operand rest ih => rw [Operand.derivedTextsAll, ih, List.flatMap_cons]

theorem Operand.textsAll_eq_flatMap (operands : List Operand) :
    Operand.textsAll operands = operands.flatMap Operand.texts := by
  induction operands with
  | nil => rfl
  | cons operand rest ih => rw [Operand.textsAll, ih, List.flatMap_cons]

theorem Join.textsAll_eq_flatMap (joins : List Join) :
    Join.textsAll joins = joins.flatMap Join.texts := by
  induction joins with
  | nil => rfl
  | cons join rest ih =>
    obtain ⟨form, target, condition⟩ := join
    rw [Join.textsAll, ih, List.flatMap_cons, Join.texts]

theorem Condition.textsAll_eq_flatMap (conditions : List Condition) :
    Condition.textsAll conditions = conditions.flatMap fun condition => condition.body.texts := by
  induction conditions with
  | nil => rfl
  | cons condition rest ih =>
    obtain ⟨connector, modifier, body⟩ := condition
    rw [Condition.textsAll, ih, List.flatMap_cons]

theorem Payload.assignmentTexts_eq_flatMap (pairs : List (String × Operand)) :
    Payload.assignmentTexts pairs = pairs.flatMap Payload.assignedTexts := by
  induction pairs with
  | nil => rfl
  | cons pair rest ih => rw [Payload.assignmentTexts, ih, List.flatMap_cons, Payload.assignedTexts]

theorem Payload.pairTexts_eq_flatMap (pairs : List (String × Operand)) :
    Payload.pairTexts pairs = (pairs.map (·.2)).flatMap Operand.texts := by
  induction pairs with
  | nil => rfl
  | cons pair rest ih => rw [Payload.pairTexts, ih, List.map_cons, List.flatMap_cons]

theorem UnionMember.textsAll_eq_flatMap (members : List UnionMember) :
    UnionMember.textsAll members = members.flatMap fun member => member.statement.texts := by
  induction members with
  | nil => rfl
  | cons member rest ih =>
    obtain ⟨statement, keepDuplicates⟩ := member
    rw [UnionMember.textsAll, ih, List.flatMap_cons]

theorem Cte.textsAll_eq_flatMap (ctes : List Cte) :
    Cte.textsAll ctes = ctes.flatMap Cte.texts := by
  induction ctes with
  | nil => rfl
  | cons cte rest ih =>
    obtain ⟨name, columns, body⟩ := cte
    rw [Cte.textsAll, ih, List.flatMap_cons, Cte.texts]

theorem Statement.texts_eq (s : Statement) :
    s.texts =
      s.ctes.flatMap Cte.texts ++ s.selectList.flatMap Operand.derivedTexts ++
        Operand.derivedTextsOptional s.source ++ s.sourceAlias.toList ++
        s.joins.flatMap Join.texts ++ Payload.texts s.kind s.columnList s.payload ++
        (s.conditions.flatMap fun condition => condition.body.texts) ++ s.groupColumns ++
        (if s.groupColumns.isEmpty then []
          else s.groupConditions.flatMap fun condition => condition.body.texts) ++
        (s.unionMembers.flatMap fun member => member.statement.texts) ++
        s.orderTerms.map (·.1) := by
  cases s
  simp only [Statement.texts, Cte.textsAll_eq_flatMap, Operand.derivedTextsAll_eq_flatMap,
    Join.textsAll_eq_flatMap, Condition.textsAll_eq_flatMap, UnionMember.textsAll_eq_flatMap]

end SqlBuilder
