import SqlBuilder.Statement.Method
import SqlBuilder.Proofs.StoredOperands

/-!
# Reachable statements

A statement is reachable when some run of calls builds it from nothing and every statement handed to
a call was built the same way. A statement that is stored in a reachable one is reachable up to the
two marks of its place (`Placed.nested`), so whatever ignores the marks and holds of reachable
statements holds at every depth; and no error hides below a statement without one
(`Placed.firstError_of_nested`).
-/
namespace SqlBuilder

/-- Some run of calls builds the statement, and every statement handed to one of them. -/
inductive Reachable : Statement → Prop where
  | start : Reachable {}
  | call {s : Statement} (c : Call) (before : Reachable s)
      (given : ∀ place t, .nested t ∈ c.operandsAt place → Reachable t) : Reachable (s.apply c)

namespace Reachable

variable {s : Statement} {place : Place} {operand : Operand}

theorem run {calls : List Call} (before : Reachable s)
    (given : ∀ c ∈ calls, ∀ place t, .nested t ∈ c.operandsAt place → Reachable t) :
    Reachable (s.run calls) := by
  induction calls generalizing s with
  | nil => exact before
  | cons c rest ih =>
    have next := before.call c (given c List.mem_cons_self)
    exact ih next fun later member => given later (List.mem_cons_of_mem c member)

/-- Nested statements are reachable under the name that was returned for them. -/
theorem namedBy (reachable : Reachable s) (returned : Option String) :
    Reachable (s.namedBy returned) := by
  cases returned with
  | none => exact reachable
  | some name =>
    refine reachable.call (.aliasAs name) ?_
    intro place t given
    cases place <;> cases given

theorem derived_eq_false (reachable : Reachable s) : s.derived = false := by
  induction reachable with
  | start => rfl
  | @call s c before given ih => rw [(s.apply_takesFrom c).derived, ih]

/-- Where a stored operand comes from. -/
theorem origin_of_stored (reachable : Reachable s) (stored : operand ∈ s.operandsAt place) :
    ∃ given, place.Admits given ∧ place.StoredAs given operand ∧
      ∀ t, given = .nested t → Reachable t := by
  induction reachable with
  | start => cases place <;> simp [Statement.operandsAt] at stored
  | @call s c before given ih =>
    rcases (s.apply_takesFrom c).stored place operand stored with earlier | added
    · exact ih earlier
    · obtain ⟨offered, inGiven, admitted, as, _⟩ := added
      refine ⟨offered, admitted, as, ?_⟩
      intro t same
      subst same
      exact given place t inGiven

theorem firstError_of_stored (reachable : Reachable s) (stored : operand ∈ s.operandsAt place)
    (broken : operand.error?.isSome) : s.firstError.isSome := by
  induction reachable with
  | start => cases place <;> simp [Statement.operandsAt] at stored
  | @call s c before given ih =>
    rcases (s.apply_takesFrom c).stored place operand stored with earlier | added
    · obtain ⟨e, recorded⟩ := Option.isSome_iff_exists.mp (ih earlier)
      rw [(s.apply_takesFrom c).sticky e recorded]
      rfl
    · obtain ⟨offered, _, _, as, kept⟩ := added
      have same : offered.error? = operand.error? := by cases as <;> rfl
      exact kept (same ▸ broken)

end Reachable

/-- A reachable statement under whatever marks a place has given it. -/
inductive Placed : Statement → Prop where
  | mk {origin : Statement} (reachable : Reachable origin) (derived : Bool)
      (aliasName : Option String) :
      Placed { origin with derived := derived, aliasName := aliasName }

theorem Statement.operandsAt_marked (s : Statement) (derived : Bool) (aliasName : Option String)
    (place : Place) :
    { s with derived := derived, aliasName := aliasName }.operandsAt place =
      s.operandsAt place := by
  cases place <;> rfl

theorem Reachable.placed {s : Statement} (reachable : Reachable s) : Placed s := by
  have marked := Placed.mk reachable s.derived s.aliasName
  cases s
  exact marked

namespace Placed

variable {s t : Statement} {place : Place}

theorem nested (placed : Placed s) (stored : .nested t ∈ s.operandsAt place) :
    Placed t ∧ t.derived = place.derives := by
  cases placed with
  | mk reachable derived aliasName =>
    rw [Statement.operandsAt_marked] at stored
    obtain ⟨given, _, as, origin⟩ := reachable.origin_of_stored stored
    cases as with
    | nested u aliasName =>
      have built := origin u rfl
      refine ⟨.mk built _ _, ?_⟩
      rw [built.derived_eq_false, Bool.false_or]

/-- No error hides below a statement without one. -/
theorem firstError_of_nested (placed : Placed s) (clean : s.firstError = none)
    (stored : .nested t ∈ s.operandsAt place) : t.firstError = none := by
  cases placed with
  | mk reachable derived aliasName =>
    rw [Statement.operandsAt_marked] at stored
    cases known : t.firstError with
    | none => rfl
    | some e =>
      have broken : (Operand.nested t).error?.isSome := by rw [Operand.error?, known]; rfl
      have hidden := reachable.firstError_of_stored stored broken
      rw [show _ = none from clean] at hidden
      cases hidden

end Placed
end SqlBuilder
