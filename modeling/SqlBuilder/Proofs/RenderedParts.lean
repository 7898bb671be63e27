import Mathlib.Data.List.Forall2
import SqlBuilder.Proofs.Nesting
import SqlBuilder.Renderer

/-!
# The rendered parts of a statement

The renderer recurses over lists by functions of its own. Here each of them is shown to be
`List.mapM` of the rendering of one element, so `Statement.render` is `Statement.text` of the parts
that `Statement.parts` names, and what holds of the elements carries over to the lists.
-/
namespace SqlBuilder

section Sequencing

variable {ε α β : Type}

/-- A sequence succeeds when both steps do. -/
theorem bind_eq_ok_iff {step : Except ε α} {next : α → Except ε β} {value : β} :
    (step >>= next) = .ok value ↔ ∃ result, step = .ok result ∧ next result = .ok value := by
  cases step with
  | error e => simp [bind, Except.bind]
  | ok result => simp [bind, Except.bind]

theorem pure_eq_ok_iff {value result : α} :
    (pure value : Except ε α) = .ok result ↔ value = result := by
  simp [pure, Except.pure]

theorem map_eq_ok_iff {step : Except ε α} {f : α → β} {value : β} :
    (f <$> step) = .ok value ↔ ∃ result, step = .ok result ∧ f result = value := by
  rw [← bind_pure_comp, bind_eq_ok_iff]
  simp only [pure_eq_ok_iff]

/-- What holds of the results of each step holds of the results of all of them, side by side. -/
theorem forall₂_of_mapM_eq_ok {f : α → Except ε β} {Result : α → β → Prop} {items : List α}
    {results : List β} (done : items.mapM f = .ok results)
    (each : ∀ item ∈ items, ∀ result, f item = .ok result → Result item result) :
    List.Forall₂ Result items results := by
  induction items generalizing results with
  | nil =>
    rw [List.mapM_nil, pure_eq_ok_iff] at done
    subst done
    exact .nil
  | cons item items ih =>
    simp only [List.mapM_cons, bind_eq_ok_iff, pure_eq_ok_iff] at done
    obtain ⟨result, first, results, rest, rfl⟩ := done
    refine .cons (each item List.mem_cons_self result first) (ih rest ?_)
    exact fun later member => each later (List.mem_cons_of_mem item member)

/-- Steps that all succeed give the list of their results. -/
theorem mapM_eq_ok_map {f : α → Except ε β} {result : α → β} {items : List α}
    (each : ∀ item ∈ items, f item = .ok (result item)) :
    items.mapM f = .ok (items.map result) := by
  induction items with
  | nil => rfl
  | cons item items ih =>
    rw [List.mapM_cons, each item List.mem_cons_self,
      ih fun later member => each later (List.mem_cons_of_mem item member)]
    rfl

end Sequencing

variable (p : Pagination)

/-- The text of one join. -/
def Join.render (join : Join) : Except Error String := do
  let target ← join.target.render p
  let condition ← Operand.renderJoinCondition p join.condition
  return Layout.join join.form target condition

/-- The text of one condition. -/
def Condition.render (condition : Condition) : Except Error String := do
  let body ← condition.body.renderValue p
  return Layout.condition condition.connector condition.modifier body

/-- The text of one union member. -/
def UnionMember.render (member : UnionMember) : Except Error String := do
  let text ← member.statement.render p
  return Layout.unionMember member.keepDuplicates member.statement.arrangesRows text

/-- The text of one common table expression. -/
def Cte.render (cte : Cte) : Except Error String := do
  let body ← cte.body.render p
  return Layout.cte cte.name cte.columns body

theorem Operand.renderAll_eq_mapM (operands : List Operand) :
    Operand.renderAll p operands = operands.mapM (Operand.render p) := by
  induction operands with
  | nil => rfl
  | cons operand rest ih => rw [Operand.renderAll, ih, List.mapM_cons]

theorem Operand.renderValues_eq_mapM (operands : List Operand) :
    Operand.renderValues p operands = operands.mapM (Operand.renderValue p) := by
  induction operands with
  | nil => rfl
  | cons operand rest ih => rw [Operand.renderValues, ih, List.mapM_cons]

theorem Operand.renderOptional_eq_mapM (operand : Option Operand) :
    Operand.renderOptional p operand = operand.mapM (Operand.render p) := by
  cases operand with
  | none => rfl
  | some operand => rw [Operand.renderOptional, Option.mapM_some, bind_pure_comp]

theorem Join.renderAll_eq_mapM (joins : List Join) :
    Join.renderAll p joins = joins.mapM (Join.render p) := by
  induction joins with
  | nil => rfl
  | cons join rest ih =>
    obtain ⟨form, target, condition⟩ := join
    rw [Join.renderAll, ih, List.mapM_cons, Join.render]
    simp only [bind_assoc, pure_bind]

theorem Condition.renderAll_eq_mapM (conditions : List Condition) :
    Condition.renderAll p conditions = conditions.mapM (Condition.render p) := by
  induction conditions with
  | nil => rfl
  | cons condition rest ih =>
    obtain ⟨connector, modifier, body⟩ := condition
    rw [Condition.renderAll, ih, List.mapM_cons, Condition.render]
    simp only [bind_assoc, pure_bind]

theorem Payload.renderPairs_eq_mapM (pairs : List (String × Operand)) :
    Payload.renderPairs p pairs = (pairs.map (·.2)).mapM (Operand.renderValue p) := by
  induction pairs with
  | nil => rfl
  | cons pair rest ih => rw [Payload.renderPairs, ih, List.map_cons, List.mapM_cons]

theorem Payload.renderValues_eq_mapM (payload : Option Payload) :
    Payload.renderValues p payload =
      ((payload.map Payload.values).getD []).mapM (Operand.renderValue p) := by
  rcases payload with _ | values | pairs | rows
  · rfl
  · rw [Payload.renderValues, Operand.renderValues_eq_mapM]
    rfl
  · rw [Payload.renderValues, Payload.renderPairs_eq_mapM]
    rfl
  · rfl

theorem UnionMember.renderAll_eq_mapM (members : List UnionMember) :
    UnionMember.renderAll p members = members.mapM (UnionMember.render p) := by
  induction members with
  | nil => rfl
  | cons member rest ih =>
    obtain ⟨statement, keepDuplicates⟩ := member
    rw [UnionMember.renderAll, ih, List.mapM_cons, UnionMember.render]
    simp only [bind_assoc, pure_bind]

theorem Cte.renderAll_eq_mapM (ctes : List Cte) :
    Cte.renderAll p ctes = ctes.mapM (Cte.render p) := by
  induction ctes with
  | nil => rfl
  | cons cte rest ih =>
    obtain ⟨name, columns, body⟩ := cte
    rw [Cte.renderAll, ih, List.mapM_cons, Cte.render]
    simp only [bind_assoc, pure_bind]

/-- What the layout of a statement is given. -/
def Statement.parts (s : Statement) : Parts where
  ctes := s.ctes.mapM (Cte.render p)
  selectList := s.selectList.mapM (Operand.render p)
  source := s.source.mapM (Operand.render p)
  joins := s.joins.mapM (Join.render p)
  conditions := s.conditions.mapM (Condition.render p)
  groupConditions := s.groupConditions.mapM (Condition.render p)
  values := (s.operandsAt .value).mapM (Operand.renderValue p)
  rows := Payload.renderRows p s.payload
  unionMembers := s.unionMembers.mapM (UnionMember.render p)

/-- The table of a statement is its source, rendered. -/
theorem Statement.tableText_parts (kind : Kind) (s : Statement) :
    Statement.tableText kind (s.parts p) =
      match s.source with
      | none => .error (.missingTable kind)
      | some source => source.render p := by
  rw [tableText, parts]
  cases s.source with
  | none => rfl
  | some source =>
    dsimp only
    rw [Option.mapM_some]
    cases source.render p <;> rfl

/-- Columns and values are written when there are as many of either. -/
theorem Statement.insertedValuesText_eq (columns : List String) (count : Nat)
    (values : Except Error (List String)) :
    Statement.insertedValuesText columns count values =
      if columns.length = count then Layout.insertedValues columns <$> values
      else .error (.countMismatch columns.length count) := by
  unfold Statement.insertedValuesText
  by_cases balanced : columns.length = count
  · simp [balanced]
  · simp [balanced, throw, throwThe, MonadExceptOf.throw, bind, Except.bind]

theorem Statement.insertedValuesText_eq_ok_iff {columns : List String} {count : Nat}
    {values : Except Error (List String)} {text : String} :
    Statement.insertedValuesText columns count values = .ok text ↔
      columns.length = count ∧
        ∃ texts, values = .ok texts ∧ Layout.insertedValues columns texts = text := by
  rw [Statement.insertedValuesText_eq]
  split <;> simp [*, map_eq_ok_iff]

/-- The columns that an UPDATE sets are those of its pairs. -/
theorem Statement.updatedColumns_eq_ok_iff {s : Statement} {columns : List String} :
    s.updatedColumns = .ok columns ↔
      ∃ pairs, s.payload = some (.named pairs) ∧ pairs ≠ [] ∧ pairs.map (·.1) = columns := by
  unfold Statement.updatedColumns
  split <;> simp_all

theorem Statement.render_eq_text (s : Statement) : s.render p = s.text p (s.parts p) := by
  rw [Statement.render_eq, Statement.parts, Cte.renderAll_eq_mapM, Operand.renderAll_eq_mapM,
    Operand.renderOptional_eq_mapM, Join.renderAll_eq_mapM, Condition.renderAll_eq_mapM,
    Condition.renderAll_eq_mapM, Payload.renderValues_eq_mapM, UnionMember.renderAll_eq_mapM]
  rfl

theorem Renderer.result_render (r : Renderer) (s : Statement) :
    (r.render s).result = s.render r.pagination := by
  unfold Renderer.render
  split <;> simp only [*]

variable {p} {s : Statement}

/-- A statement without an error of its own that stands by itself renders to its bare text. -/
theorem Statement.render_eq_bareText (clean : s.firstError = none) (plain : s.derived = false) :
    s.render p = s.bareText p (s.parts p) := by
  rw [Statement.render_eq_text, Statement.text, clean, plain]
  cases s.bareText p (s.parts p) <;> rfl

theorem Statement.firstError_of_render {sql : String} (rendered : s.render p = .ok sql) :
    s.firstError = none := by
  rw [Statement.render_eq_text, Statement.text] at rendered
  cases failed : s.firstError with
  | none => rfl
  | some e =>
    rw [failed] at rendered
    cases rendered

end SqlBuilder
