import SqlBuilder.Proofs.Completeness
import SqlBuilder.Proofs.Punctuation

/-!
# Empty statements

A statement is empty if it has no verb, no condition and nothing that waits for a verb. This is read
off its fields, and it decides which statements may be nested as conditions. Here it is shown to be
the same as having an empty text: a verb writes a keyword, and no condition that is stored is empty
(`Statement.Shaped`).
-/
namespace SqlBuilder

section Texts

variable {p : Pagination} {parts : Parts} {s : Statement} {sql : String}

theorem Layout.condition_ne_empty {body : String} (filled : body ≠ "")
    (connector : Option Connector) (modifier : Option Modifier) :
    Layout.condition connector modifier body ≠ "" :=
  fun empty => filled (String.append_eq_empty_iff.mp empty).2

/-- Only empty text is an empty value; a nested statement has parentheses. -/
theorem Operand.renderValue_ne_empty {operand : Operand} (visible : operand ≠ .sql "") :
    Yields (· ≠ "") (operand.renderValue p) := by
  cases operand with
  | sql text =>
    refine .pure fun empty => visible ?_
    rw [empty]
  | nested t =>
    rw [Operand.renderValue, bind_pure_comp]
    intro value shown
    obtain ⟨text, -, rfl⟩ := map_eq_ok_iff.mp shown
    simp [Layout.parenthesized]

theorem Condition.render_ne_empty {condition : Condition} (visible : condition.body ≠ .sql "") :
    Yields (· ≠ "") (condition.render p) := by
  rw [Condition.render, bind_pure_comp]
  exact (Operand.renderValue_ne_empty visible).map fun _ filled =>
    Layout.condition_ne_empty filled _ _

namespace Statement

theorem selectText_ne_empty (shown : s.selectText p parts = .ok sql) : sql ≠ "" := by
  simp only [selectText, bind_eq_ok_iff, pure_eq_ok_iff] at shown
  obtain ⟨ctes, -, items, -, source, -, joins, -, conditions, -, groups, -, members, -, rfl⟩ :=
    shown
  have listed : s.selectListText items ≠ "" := by
    unfold selectListText
    cases s.distinct <;> simp
  exact Layout.spaced_ne_empty (by simp) listed

theorem insertText_ne_empty (shown : s.insertText parts = .ok sql) : sql ≠ "" := by
  simp only [insertText, bind_eq_ok_iff, pure_eq_ok_iff] at shown
  obtain ⟨ctes, -, table, -, inserted, -, rfl⟩ := shown
  have headed : "INSERT INTO " ++ table ≠ "" := by simp
  exact Layout.spaced_ne_empty (by simp) headed

theorem updateText_ne_empty (shown : s.updateText parts = .ok sql) : sql ≠ "" := by
  simp only [updateText, bind_eq_ok_iff, pure_eq_ok_iff] at shown
  obtain ⟨columns, -, ctes, -, table, -, values, -, conditions, -, rfl⟩ := shown
  have headed : "UPDATE " ++ table ≠ "" := by simp
  exact Layout.spaced_ne_empty (by simp) headed

theorem deleteText_ne_empty (shown : s.deleteText parts = .ok sql) : sql ≠ "" := by
  simp only [deleteText, bind_eq_ok_iff, pure_eq_ok_iff] at shown
  obtain ⟨ctes, -, table, -, conditions, -, rfl⟩ := shown
  have headed : "DELETE FROM " ++ table ≠ "" := by simp
  exact Layout.spaced_ne_empty (by simp) headed

/-- Without a verb the text is that of the conditions. -/
theorem verblessText_ne_empty (visible : ∀ condition ∈ s.conditions, condition.body ≠ .sql "")
    (conditional : s.conditions ≠ []) (shown : s.verblessText (s.parts p) = .ok sql) :
    sql ≠ "" := by
  unfold verblessText at shown
  split at shown
  · cases shown
  · simp only [parts, bind_eq_ok_iff, pure_eq_ok_iff] at shown
    obtain ⟨texts, rendered, rfl⟩ := shown
    have each : ∀ text ∈ texts, text ≠ "" :=
      Yields.mapM (fun condition member => Condition.render_ne_empty (visible condition member))
        texts rendered
    have inOrder := forall₂_of_mapM_eq_ok rendered fun _ _ _ rendered => rendered
    have some_text : texts ≠ [] := by
      rintro rfl
      exact conditional (List.forall₂_nil_right_iff.mp inOrder)
    exact Layout.intercalate_ne_empty some_text each

/-- A statement that is not empty and has no verb has conditions, unless a clause of it waits for a
verb. -/
theorem conditions_ne_nil_of_isEmpty_eq_false (filled : s.isEmpty = false) (untyped : s.kind = none)
    (bare : s.strayClause? = none) : s.conditions ≠ [] := by
  intro unconditional
  rw [isEmpty_iff.mpr ⟨untyped, unconditional, bare⟩] at filled
  cases filled

end Statement
end Texts

/-- If a statement that is not empty has a text, the text is not empty. -/
theorem Placed.bareText_ne_empty {p : Pagination} {s : Statement} {sql : String}
    (placed : Placed s) (filled : s.isEmpty = false)
    (shown : s.bareText p (s.parts p) = .ok sql) : sql ≠ "" := by
  unfold Statement.bareText at shown
  split at shown
  · exact Statement.selectText_ne_empty shown
  · exact Statement.insertText_ne_empty shown
  · exact Statement.updateText_ne_empty shown
  · exact Statement.deleteText_ne_empty shown
  next untyped =>
    have visible : ∀ condition ∈ s.conditions, condition.body ≠ .sql "" := by
      intro condition member empty
      refine placed.shaped.visible .rows ?_
      rw [← empty]
      exact List.mem_map_of_mem member
    cases bare : s.strayClause? with
    | some clause =>
      rw [Statement.verblessText, bare] at shown
      cases shown
    | none =>
      have conditional := Statement.conditions_ne_nil_of_isEmpty_eq_false filled untyped bare
      exact Statement.verblessText_ne_empty visible conditional shown

/-- A reachable statement without an error is empty exactly if its text is. One that is not empty
either has a text that is not, or fails validation. -/
theorem Reachable.isEmpty_iff_render {s : Statement} (reachable : Reachable s)
    (clean : s.firstError = none) (r : Renderer) :
    (s.isEmpty = true ↔ (r.render s).result = .ok "") ∧
      (s.isEmpty = false → (∃ sql, (r.render s).result = .ok sql ∧ sql ≠ "") ∨
        ∃ reason, (r.render s).result = .error (.validation reason)) := by
  have decided := reachable.placed.decidedBy_render r.pagination clean
  rw [Renderer.result_render]
  rw [Statement.render_eq_bareText clean reachable.derived_eq_false] at decided ⊢
  have readable (filled : s.isEmpty = false) {sql : String} :=
    @Placed.bareText_ne_empty r.pagination s sql reachable.placed filled
  refine ⟨⟨Statement.bareText_of_isEmpty, fun nothing => ?_⟩, fun filled => ?_⟩
  · by_contra visible
    exact readable (Bool.eq_false_iff.mpr visible) nothing rfl
  · cases outcome : s.bareText r.pagination (s.parts r.pagination) with
    | ok sql => exact .inl ⟨sql, rfl, readable filled outcome⟩
    | error e =>
      obtain ⟨reason, rfl⟩ := decided.validation_of_error outcome
      exact .inr ⟨reason, rfl⟩

/-- A statement that lost its condition again; its other calls leave no clause either. -/
def clearedStatement : Statement :=
  ({} : Statement).run [.restrict .rows .replacing false (.sql "a = 1"), .valuesList [],
    .restrictAll .rows [.sql "", .sql ""], .offset 0, .groupBy [], .aliasAs "t"]

theorem isEmpty_iff_render_clearedStatement :
    Reachable clearedStatement ∧ clearedStatement.firstError = none ∧
      (clearedStatement.isEmpty = true ↔
        ((default : Renderer).render clearedStatement).result = .ok "") ∧
      ((default : Renderer).render clearedStatement).result = .ok "" := by
  have reachable : Reachable clearedStatement := by
    apply Reachable.start.run_of_offers
    simp [or_imp, forall_and]
  have same := (reachable.isEmpty_iff_render rfl default).1
  exact ⟨reachable, rfl, same, same.mp rfl⟩

end SqlBuilder
