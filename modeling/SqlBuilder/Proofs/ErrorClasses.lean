import SqlBuilder.Proofs.RecordedErrors

/-!
# Misuses and failed validations

Builder calls report misuses and renders report failed validations, with one exception: a blank name
of a common table expression is reported when it is given, as a failed validation. Every other error
that a call meets is a misuse or was taken over from a statement it is given
(`Call.misuse_or_blankName_or_adopted`), so the class of an error says where it came from unless it
is that one (`Reachable.isMisuse_iff_ne_blankCteName`).
-/
namespace SqlBuilder

section Raised

variable {s t : Statement} {c : Call} {e : Error}

theorem Statement.isMisuse_of_verbError? {kind : Kind} (met : s.verbError? kind = some e) :
    e.isMisuse = true := by
  unfold verbError? at met
  split at met
  · split at met
    · cases met
    · cases met
      rfl
  · obtain ⟨clause, -, rfl⟩ := Option.map_eq_some_iff.mp met
    rfl

theorem Statement.isMisuse_of_gateError? {clause : Clause} (met : s.gateError? clause = some e) :
    e.isMisuse = true := by
  obtain ⟨kind, -, excluded⟩ := Option.bind_eq_some_iff.mp met
  split at excluded
  · cases excluded
  · cases excluded
    rfl

theorem Verb.isMisuse_of_tableError? {verb : Verb} (met : verb.tableError? = some e) :
    e.isMisuse = true := by
  unfold tableError? at met
  split at met
  · cases met
    rfl
  · cases met

theorem Statement.isMisuse_of_mixingError? {fits : Payload → Bool}
    (met : s.mixingError? fits = some e) : e.isMisuse = true := by
  unfold mixingError? at met
  split at met
  · cases met
  · cases met
    rfl

theorem Call.isMisuse_of_mixingError? (met : c.mixingError? s = some e) : e.isMisuse = true := by
  cases c with
  | values | setColumn | valuesList | valuesFrom => exact Statement.isMisuse_of_mixingError? met
  | _ => cases met

/-- Of the names that cannot be registered only the blank ones are no misuse. -/
theorem Statement.misuse_or_blank_of_nameError? {name : String} (met : s.nameError? name = some e) :
    e.isMisuse = true ∨ Text.isBlank name = true ∧ e = .blankCteName := by
  unfold nameError? at met
  split at met
  next blank =>
    cases met
    exact .inr ⟨blank, rfl⟩
  · split at met
    · cases met
      exact .inl rfl
    · cases met

theorem Place.isMisuse_of_unfit? {place : Place} {context : String}
    (met : place.unfit? context t = some e) : e.isMisuse = true := by
  cases place with
  | unionMember | insertedRows =>
    simp only [unfit?] at met
    split at met <;> cases met <;> rfl
  | _ =>
    simp only [unfit?] at met
    split at met <;> cases met
    rfl

/-- What is wrong with an operand is a misuse or the error of the operand. -/
theorem Call.misuse_or_adopted_of_objection? {offer : Place × Operand}
    (met : c.objection? s offer = some e) :
    e.isMisuse = true ∨ ∃ t, offer.2 = .nested t ∧ t.firstError = some e := by
  obtain ⟨place, operand⟩ := offer
  unfold objection? at met
  cases operand with
  | sql text => exact .inl (isMisuse_of_mixingError? met)
  | nested t =>
    simp only [Place.objection?] at met
    split at met
    · simp only [Option.or_eq_some_iff] at met
      rcases met with (own | ⟨-, unfit⟩) | ⟨-, mixed⟩
      · exact .inr ⟨t, rfl, own⟩
      · exact .inl (Place.isMisuse_of_unfit? unfit)
      · exact .inl (isMisuse_of_mixingError? mixed)
    · simp only [Option.or_eq_some_iff] at met
      rcases met with unfit | ⟨-, mixed | ⟨-, own⟩⟩
      · exact .inl (Place.isMisuse_of_unfit? unfit)
      · exact .inl (isMisuse_of_mixingError? mixed)
      · exact .inr ⟨t, rfl, own⟩

theorem Call.misuse_or_blankName_of_barrier? (met : c.barrier? s = some e) :
    e.isMisuse = true ∨ ∃ name columns recursive body,
      c = .withCte name columns recursive body ∧ Text.isBlank name = true ∧ e = .blankCteName := by
  unfold barrier? at met
  simp only [Option.or_eq_some_iff, Option.bind_eq_some_iff] at met
  rcases met with ⟨verb, -, conflict | ⟨-, blank⟩⟩ | ⟨-, ⟨clause, -, excluded⟩ | ⟨-, later⟩⟩
  · exact .inl (Statement.isMisuse_of_verbError? conflict)
  · exact .inl (Verb.isMisuse_of_tableError? blank)
  · exact .inl (Statement.isMisuse_of_gateError? excluded)
  · cases c with
    | withCte name columns recursive body =>
      rcases Statement.misuse_or_blank_of_nameError? later with misuse | blank
      · exact .inl misuse
      · exact .inr ⟨name, columns, recursive, body, rfl, blank⟩
    | valuesList added => exact .inl (isMisuse_of_mixingError? later)
    | _ => cases later

/-- Where the error of a call comes from. -/
theorem Call.misuse_or_blankName_or_adopted (met : c.error? s = some e) :
    e.isMisuse = true ∨
      (∃ name columns recursive body,
        c = .withCte name columns recursive body ∧ Text.isBlank name = true ∧
          e = .blankCteName) ∨
      ∃ place t, (place, .nested t) ∈ c.offers ∧ t.firstError = some e := by
  rw [error?, Option.or_eq_some_iff] at met
  rcases met with barred | ⟨-, objected⟩
  · exact (misuse_or_blankName_of_barrier? barred).imp_right .inl
  · obtain ⟨⟨place, operand⟩, given, objection⟩ := List.exists_of_findSome?_eq_some objected
    rcases misuse_or_adopted_of_objection? objection with misuse | ⟨t, rfl, own⟩
    · exact .inl misuse
    · exact .inr (.inr ⟨place, t, given, own⟩)

end Raised

/-- What is recorded on a reachable statement, whether it was met there or taken over from below. -/
theorem Reachable.misuse_or_blankCteName {s : Statement} (reachable : Reachable s) {e : Error}
    (recorded : s.firstError = some e) : e.isMisuse = true ∨ e = .blankCteName := by
  induction reachable with
  | start => cases recorded
  | @call s c before given ih below =>
    rw [s.records_apply c, Option.or_eq_some_iff] at recorded
    rcases recorded with earlier | ⟨-, met⟩
    · exact ih earlier
    · rcases Call.misuse_or_blankName_or_adopted met with
        misuse | ⟨_, _, _, _, -, -, blank⟩ | ⟨place, t, offered, own⟩
      · exact .inl misuse
      · exact .inr blank
      · exact below place t (Call.nested_mem_offers_iff.mp offered) own

/-- An error that is recorded while a statement is built counts as a misuse, and not as a failed
validation, unless it is that of a blank name of a common table expression. -/
theorem Reachable.isMisuse_iff_ne_blankCteName {s : Statement} (reachable : Reachable s) {e : Error}
    (recorded : s.firstError = some e) :
    (e.isMisuse = true ∧ e.isValidation = false) ↔ e ≠ .blankCteName := by
  constructor
  · rintro ⟨misuse, -⟩ rfl
    cases misuse
  · intro other
    have misuse := (reachable.misuse_or_blankCteName recorded).resolve_right other
    exact ⟨misuse, by simpa [Error.isMisuse] using misuse⟩

/-- An UPDATE that was asked to be a DELETE. -/
def conflictingVerbs : Statement := ({} : Statement).run [.updateTable "t", .deleteFrom "t"]

/-- The conflict reaches the statement around it through a common table expression, and the one
around that through a derived table. -/
def readsConflict : Statement :=
  ({} : Statement).run [.select [.sql "a"], .readFromAs (.nested (({} : Statement).run
    [.withCte "n" none false conflictingVerbs, .select [.sql "b"]])) "d"]

theorem isMisuse_iff_readsConflict :
    Reachable readsConflict ∧ readsConflict.firstError = some (.kindConflict .update .delete) ∧
      ((Error.isMisuse (.kindConflict .update .delete) = true ∧
          Error.isValidation (.kindConflict .update .delete) = false) ↔
        Error.kindConflict .update .delete ≠ .blankCteName) := by
  have conflict : Reachable conflictingVerbs := by
    apply Reachable.start.run_of_offers
    simp
  have adopted : Reachable (({} : Statement).run
      [.withCte "n" none false conflictingVerbs, .select [.sql "b"]]) := by
    apply Reachable.start.run_of_offers
    simp [conflict]
  have reachable : Reachable readsConflict := by
    apply Reachable.start.run_of_offers
    simp [adopted]
  have recorded : readsConflict.firstError = some (.kindConflict .update .delete) := by
    decide +kernel
  exact ⟨reachable, recorded, reachable.isMisuse_iff_ne_blankCteName recorded⟩

/-- The blank name is refused by a builder call and counts as a failed validation. -/
theorem not_isMisuse_blankName :
    ¬ ∀ s e, Reachable s → s.firstError = some e → e.isMisuse = true ∧ e.isValidation = false := by
  intro misuses
  have reachable : Reachable (({} : Statement).run [.withCte " " none false readsTable]) := by
    apply Reachable.start.run_of_offers
    simp [reachable_readsTable]
  have claimed := misuses _ .blankCteName reachable (by decide +kernel)
  cases claimed.1

end SqlBuilder
