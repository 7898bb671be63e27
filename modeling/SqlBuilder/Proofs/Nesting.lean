import SqlBuilder.Rendering.Nested

/-!
# Nested statements

A statement stores operands at ten places, and those that are statements store operands again.
`Statement.operandsAt` lists the operands of one place, and `Statement.nesting_induction` proves a
property of a statement from the same property of the statements stored in it.
-/
namespace SqlBuilder

/-- Where a statement stores operands. -/
inductive Place where
  | selectList | source | joinTarget | joinCondition | filter | groupFilter | value | insertedRows
  | unionMember | cteBody
  deriving DecidableEq, Repr

namespace Place

/-- Statements stored here stand as derived tables or expressions, under their own name. -/
def derives : Place → Bool
  | selectList | source | joinTarget => true
  | _ => false

theorem forall_iff {motive : Place → Prop} :
    (∀ place, motive place) ↔
      motive .selectList ∧ motive .source ∧ motive .joinTarget ∧ motive .joinCondition ∧
        motive .filter ∧ motive .groupFilter ∧ motive .value ∧ motive .insertedRows ∧
        motive .unionMember ∧ motive .cteBody := by
  constructor
  · intro h
    exact ⟨h _, h _, h _, h _, h _, h _, h _, h _, h _, h _⟩
  · rintro ⟨h₁, h₂, h₃, h₄, h₅, h₆, h₇, h₈, h₉, h₁₀⟩ place
    cases place <;> assumption

end Place

/-- The values of a payload, in their order. -/
def Payload.values : Payload → List Operand
  | .positional values => values
  | .named pairs => pairs.map (·.2)
  | .rows _ => []

/-- The statement whose rows are inserted. -/
def Payload.rowSource? : Payload → Option Statement
  | .rows statement => some statement
  | _ => none

/-- The operands that a statement stores at a place. -/
def Statement.operandsAt (s : Statement) : Place → List Operand
  | .selectList => s.selectList
  | .source => s.source.toList
  | .joinTarget => s.joins.map (·.target)
  | .joinCondition => s.joins.filterMap (·.condition)
  | .filter => s.conditions.map (·.body)
  | .groupFilter => s.groupConditions.map (·.body)
  | .value => (s.payload.map Payload.values).getD []
  | .insertedRows => (s.payload.bind Payload.rowSource?).toList.map .nested
  | .unionMember => s.unionMembers.map fun member => .nested member.statement
  | .cteBody => s.ctes.map fun cte => .nested cte.body

namespace Statement

variable {s t : Statement}

theorem mem_operandsAt_source {operand : Operand} (held : s.source = some operand) :
    operand ∈ s.operandsAt .source :=
  Option.mem_toList.mpr held

theorem mem_operandsAt_joinTarget {join : Join} (member : join ∈ s.joins) :
    join.target ∈ s.operandsAt .joinTarget :=
  List.mem_map_of_mem member

theorem mem_operandsAt_joinCondition {join : Join} (member : join ∈ s.joins) :
    ∀ operand ∈ join.condition, operand ∈ s.operandsAt .joinCondition :=
  fun _ given => List.mem_filterMap.mpr ⟨join, member, given⟩

theorem mem_operandsAt_insertedRows (inserted : s.payload = some (.rows t)) :
    .nested t ∈ s.operandsAt .insertedRows := by
  simp [operandsAt, inserted, Payload.rowSource?]

theorem mem_operandsAt_unionMember {member : UnionMember} (inList : member ∈ s.unionMembers) :
    .nested member.statement ∈ s.operandsAt .unionMember :=
  List.mem_map.mpr ⟨member, inList, rfl⟩

theorem mem_operandsAt_cteBody {cte : Cte} (member : cte ∈ s.ctes) :
    .nested cte.body ∈ s.operandsAt .cteBody :=
  List.mem_map_of_mem member

end Statement

section Size

variable {t : Statement}

theorem Operand.sizeOf_lt_of_nested {operands : List Operand} (stored : .nested t ∈ operands) :
    sizeOf t < sizeOf operands := by
  have := List.sizeOf_lt_of_mem stored
  rw [Operand.nested.sizeOf_spec] at this
  omega

theorem Join.sizeOf_lt_of_target {joins : List Join} (stored : .nested t ∈ joins.map (·.target)) :
    sizeOf t < sizeOf joins := by
  obtain ⟨⟨form, target, condition⟩, member, rfl⟩ := List.mem_map.mp stored
  have := List.sizeOf_lt_of_mem member
  rw [Join.mk.sizeOf_spec, Operand.nested.sizeOf_spec] at this
  omega

theorem Join.sizeOf_lt_of_condition {joins : List Join}
    (stored : .nested t ∈ joins.filterMap (·.condition)) : sizeOf t < sizeOf joins := by
  obtain ⟨⟨form, target, condition⟩, member, rfl⟩ := List.mem_filterMap.mp stored
  have := List.sizeOf_lt_of_mem member
  rw [Join.mk.sizeOf_spec, Option.some.sizeOf_spec, Operand.nested.sizeOf_spec] at this
  omega

theorem Condition.sizeOf_lt_of_body {conditions : List Condition}
    (stored : .nested t ∈ conditions.map (·.body)) : sizeOf t < sizeOf conditions := by
  obtain ⟨⟨connector, modifier, body⟩, member, rfl⟩ := List.mem_map.mp stored
  have := List.sizeOf_lt_of_mem member
  rw [Condition.mk.sizeOf_spec, Operand.nested.sizeOf_spec] at this
  omega

theorem Payload.sizeOf_lt_of_value {payload : Payload} (stored : .nested t ∈ payload.values) :
    sizeOf t < sizeOf payload := by
  cases payload with
  | positional values =>
    have := Operand.sizeOf_lt_of_nested stored
    rw [Payload.positional.sizeOf_spec]
    simp only [Payload.values] at this
    omega
  | named pairs =>
    obtain ⟨⟨column, value⟩, member, rfl⟩ := List.mem_map.mp stored
    have := List.sizeOf_lt_of_mem member
    rw [Prod.mk.sizeOf_spec, Operand.nested.sizeOf_spec] at this
    rw [Payload.named.sizeOf_spec]
    omega
  | rows statement => simp [Payload.values] at stored

theorem Payload.sizeOf_lt_of_rowSource {payload : Payload} (stored : payload.rowSource? = some t) :
    sizeOf t < sizeOf payload := by
  cases payload with
  | rows statement =>
    cases stored
    rw [Payload.rows.sizeOf_spec]
    omega
  | positional | named => cases stored

theorem UnionMember.sizeOf_lt_of_statement {members : List UnionMember} {member : UnionMember}
    (stored : member ∈ members) : sizeOf member.statement < sizeOf members := by
  have := List.sizeOf_lt_of_mem stored
  cases member
  rw [UnionMember.mk.sizeOf_spec] at this
  dsimp only
  omega

theorem Cte.sizeOf_lt_of_body {ctes : List Cte} {cte : Cte} (stored : cte ∈ ctes) :
    sizeOf cte.body < sizeOf ctes := by
  have := List.sizeOf_lt_of_mem stored
  cases cte
  rw [Cte.mk.sizeOf_spec] at this
  dsimp only
  omega

/-- A statement is larger than those stored in it. -/
theorem Statement.sizeOf_lt_of_nested {s : Statement} {place : Place}
    (stored : .nested t ∈ s.operandsAt place) : sizeOf t < sizeOf s := by
  cases s with
  | mk kind derived aliasName distinct selectList source sourceAlias joins conditions groupColumns
      groupConditions orderTerms rowLimit rowOffset columnList payload unionMembers ctes =>
    rw [Statement.mk.sizeOf_spec]
    cases place with
    | selectList =>
      have : sizeOf t < sizeOf selectList := Operand.sizeOf_lt_of_nested stored
      omega
    | source =>
      obtain rfl : source = some (.nested t) := Option.mem_toList.mp stored
      rw [Option.some.sizeOf_spec, Operand.nested.sizeOf_spec]
      omega
    | joinTarget =>
      have : sizeOf t < sizeOf joins := Join.sizeOf_lt_of_target stored
      omega
    | joinCondition =>
      have : sizeOf t < sizeOf joins := Join.sizeOf_lt_of_condition stored
      omega
    | filter =>
      have : sizeOf t < sizeOf conditions := Condition.sizeOf_lt_of_body stored
      omega
    | groupFilter =>
      have : sizeOf t < sizeOf groupConditions := Condition.sizeOf_lt_of_body stored
      omega
    | value =>
      cases payload with
      | none => simp [operandsAt] at stored
      | some payload =>
        have : sizeOf t < sizeOf payload := Payload.sizeOf_lt_of_value stored
        rw [Option.some.sizeOf_spec]
        omega
    | insertedRows =>
      cases payload with
      | none => simp [operandsAt] at stored
      | some payload =>
        have : payload.rowSource? = some t := by simpa [operandsAt] using stored
        have := Payload.sizeOf_lt_of_rowSource this
        rw [Option.some.sizeOf_spec]
        omega
    | unionMember =>
      obtain ⟨member, inList, same⟩ := List.mem_map.mp stored
      cases same
      have : sizeOf member.statement < sizeOf unionMembers :=
        UnionMember.sizeOf_lt_of_statement inList
      omega
    | cteBody =>
      obtain ⟨cte, inList, same⟩ := List.mem_map.mp stored
      cases same
      have : sizeOf cte.body < sizeOf ctes := Cte.sizeOf_lt_of_body inList
      omega

end Size

/-- Induction over the statements stored in a statement, at whatever place. -/
@[elab_as_elim]
theorem Statement.nesting_induction {motive : Statement → Prop}
    (step : ∀ s, (∀ place t, .nested t ∈ s.operandsAt place → motive t) → motive s)
    (s : Statement) : motive s :=
  step s fun _ t _ => nesting_induction step t
termination_by sizeOf s
decreasing_by exact sizeOf_lt_of_nested ‹_›

end SqlBuilder
