import SqlBuilder.Proofs.Facets
import SqlBuilder.Proofs.VerbPosition

/-!
# Early and late gates

A clause meets the kind of its statement at its own gate if the verb came first, and among the
clauses that the verb looks for if the verb comes later. A call fills the clause that belongs to its
gate (`Clause.stored`) and no other (`Statement.populated_apply_iff`), so the two checks compare the
same clause with the same kind. One gate is narrower than the clause behind it: the rows of a nested
SELECT are let into an INSERT only, and once they are stored they count as values, which an UPDATE
takes as well (`Statement.late_gate_iff`).
-/
namespace SqlBuilder

namespace Clause

/-- The clause as which a verb finds what this gate let through. -/
def stored : Clause → Clause
  | insertedRows => payload
  | clause => clause

/-- The facet that holds the clause. -/
def facet : Clause → Facet
  | selectList => .head
  | distinct => .distinct
  | source => .source
  | join => .joins
  | grouping => .grouping
  | groupFilter => .groupFilter
  | ordering => .ordering
  | paging => .paging
  | union => .unions
  | filter => .filter
  | payload | insertedRows => .payload
  | columnList => .columnList

theorem populated_facet (clause : Clause) (s : Statement) :
    clause.populated (s.facet clause.facet) = clause.populated s := by
  cases clause <;> rfl

theorem eq_stored_of_facet {clause gate : Clause} (checked : clause ∈ Clause.checked)
    (same : clause.facet = gate.facet) : clause = gate.stored := by
  cases clause with
  | insertedRows => exact absurd checked (by decide)
  | _ => cases gate <;> first | rfl | cases same

theorem stored_mem_checked (gate : Clause) : gate.stored ∈ Clause.checked := by
  cases gate <;> decide

/-- A gate and the clause behind it are closed to the same kinds, but for one gate and one kind. -/
theorem accepts_stored_iff (gate : Clause) (kind : Kind) :
    gate.stored.accepts kind = false ↔
      gate.accepts kind = false ∧ ¬ (gate = insertedRows ∧ kind = .update) := by
  cases gate <;> cases kind <;> decide

end Clause

namespace Statement

variable {s : Statement} {c v : Call} {verb : Verb}

/-! ### What a call leaves for the verb to find -/

theorem facet_of_gate? {gate : Clause} (guarded : c.gate? = some gate) :
    c.facet = gate.facet := by
  cases c with
  | selectDistinct flag =>
    cases flag with
    | true =>
      cases guarded
      rfl
    | false => cases guarded
  | restrict restriction | restrictAll restriction =>
    cases restriction <;> cases guarded <;> rfl
  | _ => cases guarded <;> rfl

/-- A call without a gate fills nothing that a verb looks for. -/
theorem populated_of_ungated (isClause : c.verb? = none) (ungated : c.gate? = none)
    (clause : Clause) (same : clause.facet = c.facet) :
    clause.populated (({} : Statement).apply c) = false := by
  cases c with
  | selectDistinct flag =>
    cases flag with
    | true => cases ungated
    | false => cases clause <;> rfl
  | aliasAs | withCte => cases clause <;> cases same
  | select | addSelect | insertInto | updateTable | deleteFrom => cases isClause
  | _ => cases ungated

/-- What is filled belongs to the gate of the call. -/
theorem gate?_of_populated (isClause : c.verb? = none) {clause : Clause}
    (checked : clause ∈ Clause.checked)
    (populated : clause.populated (({} : Statement).apply c) = true) :
    ∃ gate, c.gate? = some gate ∧ clause = gate.stored := by
  have same : clause.facet = c.facet := Decidable.byContradiction fun other => by
    rw [← Clause.populated_facet, (apply_actsOn isClause).facet_eq_of_ne other] at populated
    cases clause <;> cases populated
  cases guarded : c.gate? with
  | none =>
    rw [populated_of_ungated isClause guarded clause same] at populated
    cases populated
  | some gate =>
    refine ⟨gate, rfl, Clause.eq_stored_of_facet checked ?_⟩
    rw [same, facet_of_gate? guarded]

theorem isEmpty_iff_of_untyped (untyped : s.kind = none) :
    s.isEmpty = true ↔ s.ctes = [] ∧ ∀ clause ∈ Clause.checked, clause.populated s = false := by
  have conditionless : s.conditions = [] ↔ Clause.filter.populated s = false := by
    simp [Clause.populated]
  rw [isEmpty_iff, strayClause?_eq_none_iff untyped, conditionless, and_iff_right untyped]
  constructor
  · rintro ⟨unfiltered, unnamed, unpopulated⟩
    refine ⟨unnamed, fun clause checked => ?_⟩
    by_cases filter : clause = .filter
    · exact filter ▸ unfiltered
    · exact unpopulated clause checked filter
  · rintro ⟨unnamed, unpopulated⟩
    exact ⟨unpopulated .filter (by decide), unnamed, fun clause checked _ =>
      unpopulated clause checked⟩

/-- A call that leaves something behind fills the clause of its gate and no other. -/
theorem populated_apply_iff (isClause : c.verb? = none)
    (filled : (({} : Statement).apply c).isEmpty = false) {clause : Clause}
    (checked : clause ∈ Clause.checked) :
    clause.populated (({} : Statement).apply c) = true ↔
      ∃ gate, c.gate? = some gate ∧ clause = gate.stored := by
  refine ⟨gate?_of_populated isClause checked, ?_⟩
  rintro ⟨gate, guarded, rfl⟩
  have acts := apply_actsOn isClause
  have untyped : (({} : Statement).apply c).kind = none := acts.kind {}
  have unnamed : (({} : Statement).apply c).ctes = [] := by
    have other : Facet.ctes ≠ c.facet := by
      rw [facet_of_gate? guarded]
      cases gate <;> decide
    exact congrArg ctes (acts.facet_eq_of_ne other {})
  -- Something is filled, and whatever is filled belongs to the same gate.
  refine Decidable.byContradiction fun unpopulated => ?_
  rw [← Bool.not_eq_true, isEmpty_iff_of_untyped untyped] at filled
  refine filled ⟨unnamed, fun clause checked => Bool.eq_false_iff.mpr fun populated => ?_⟩
  obtain ⟨gate', guarded', rfl⟩ := gate?_of_populated isClause checked populated
  rw [guarded] at guarded'
  cases guarded'
  exact unpopulated populated

/-! ### The two checks -/

/-- A clause was refused because of the kind of the statement. -/
def ClauseRefused (s : Statement) : Prop :=
  ∃ clause kind, s.firstError = some (.unsupportedClause clause kind)

/-- A verb that is the first one is refused for a clause that it does not go with. -/
theorem exists_verbError?_iff {kind : Kind} (untyped : s.kind = none) :
    (∃ name other, s.verbError? kind = some (.unsupportedClause name other)) ↔
      ∃ clause ∈ Clause.checked, clause.populated s = true ∧ clause.accepts kind = false := by
  simp only [verbError?, untyped]
  constructor
  · rintro ⟨name, other, met⟩
    obtain ⟨clause, found, -⟩ := Option.map_eq_some_iff.mp met
    exact ⟨clause, List.mem_of_find?_eq_some found, by simpa using List.find?_some found⟩
  · rintro ⟨clause, checked, populated, closed⟩
    have isSome : (Clause.checked.find? fun clause =>
        clause.populated s && !clause.accepts kind).isSome :=
      List.find?_isSome.mpr ⟨clause, checked, by simp [populated, closed]⟩
    obtain ⟨first, found⟩ := Option.isSome_iff_exists.mp isSome
    exact ⟨first.name, kind, by rw [found, Option.map_some]⟩

/-- Behind a verb, a call that meets nothing on an empty statement meets its gate only. -/
theorem error?_eq_of_start (isClause : c.verb? = none) (unnamed : s.ctes = [])
    (unpaid : s.payload = none) (clean : c.error? {} = none) :
    c.error? s = c.gate?.bind s.gateError? := by
  have mixing : c.mixingError? s = c.mixingError? {} := by
    cases c <;> simp [mixingError?, unpaid]
  have naming (name : String) : s.nameError? name = ({} : Statement).nameError? name := by
    simp [nameError?, cteNames, unnamed]
  have objection : c.objection? s = c.objection? {} := by
    funext offer
    rw [Call.objection?, mixing, Call.objection?]
  obtain ⟨unbarred, sound⟩ := Option.or_eq_none_iff.mp clean
  rw [Call.error?, objection, sound, Option.or_none]
  unfold Call.barrier? at unbarred ⊢
  simp only [Option.or_eq_none_iff] at unbarred
  simp only [naming, mixing]
  rw [unbarred.2.2, isClause, Option.bind_none, Option.none_or, Option.or_none]

theorem early_refused_iff (isClause : c.verb? = none) (isVerb : v.verb? = some verb)
    (clean : (({} : Statement).apply c).firstError = none)
    (sound : (({} : Statement).apply v).firstError = none) :
    ((({} : Statement).apply v).apply c).ClauseRefused ↔
      ∃ gate, c.gate? = some gate ∧ gate.accepts verb.kind = false := by
  have typed : ({} : Statement).apply v = verb.mark {} :=
    (awaitsVerb_start verb).apply_eq_mark isVerb (error?_of_apply sound)
  have met : ((({} : Statement).apply v).apply c).firstError =
      c.gate?.bind (verb.mark {}).gateError? := by
    rw [records_apply _ c, sound, Option.none_or, typed,
      error?_eq_of_start isClause rfl rfl (error?_of_apply clean)]
  rw [ClauseRefused, met]
  constructor
  · rintro ⟨clause, kind, excluded⟩
    obtain ⟨gate, guarded, closed⟩ := Option.bind_eq_some_iff.mp excluded
    refine ⟨gate, guarded, Bool.eq_false_iff.mpr fun accepts => ?_⟩
    simp [gateError?, Verb.mark, accepts] at closed
  · rintro ⟨gate, guarded, closed⟩
    refine ⟨gate.name, verb.kind, ?_⟩
    rw [guarded, Option.bind_some]
    simp [gateError?, Verb.mark, closed]

theorem late_refused_iff (isClause : c.verb? = none) (isVerb : v.verb? = some verb)
    (clean : (({} : Statement).apply c).firstError = none)
    (filled : (({} : Statement).apply c).isEmpty = false)
    (sound : (({} : Statement).apply v).firstError = none) :
    ((({} : Statement).apply c).apply v).ClauseRefused ↔
      ∃ gate, c.gate? = some gate ∧ gate.stored.accepts verb.kind = false := by
  have untyped : (({} : Statement).apply c).kind = none := (apply_actsOn isClause).kind {}
  have met : ((({} : Statement).apply c).apply v).firstError =
      (({} : Statement).apply c).verbError? verb.kind := by
    have visible := error?_of_apply sound
    rw [error?_eq_of_verb? _ isVerb, Option.or_eq_none_iff] at visible
    rw [records_apply _ v, clean, Option.none_or, error?_eq_of_verb? _ isVerb, visible.2,
      Option.or_none]
  rw [ClauseRefused, met, exists_verbError?_iff untyped]
  constructor
  · rintro ⟨clause, checked, populated, closed⟩
    obtain ⟨gate, guarded, rfl⟩ := gate?_of_populated isClause checked populated
    exact ⟨gate, guarded, closed⟩
  · rintro ⟨gate, guarded, closed⟩
    have populated := (populated_apply_iff isClause filled gate.stored_mem_checked).mpr
      ⟨gate, guarded, rfl⟩
    exact ⟨gate.stored, gate.stored_mem_checked, populated, closed⟩

/-- Of a clause and a verb that record no error by themselves, the second is refused because of the
first in both orders or in none, unless the clause is the rows of a nested SELECT and the verb an
UPDATE: an UPDATE refuses those rows, but they do not keep a statement from becoming one. -/
theorem late_gate_iff (isClause : c.verb? = none) (isVerb : v.verb? = some verb)
    (clean : (({} : Statement).apply c).firstError = none)
    (filled : (({} : Statement).apply c).isEmpty = false)
    (sound : (({} : Statement).apply v).firstError = none) :
    ((({} : Statement).apply c).apply v).ClauseRefused ↔
      ((({} : Statement).apply v).apply c).ClauseRefused ∧
        ¬ (c.gate? = some .insertedRows ∧ verb.kind = .update) := by
  rw [late_refused_iff isClause isVerb clean filled sound,
    early_refused_iff isClause isVerb clean sound]
  constructor
  · rintro ⟨gate, guarded, closed⟩
    obtain ⟨closedEarly, other⟩ := (gate.accepts_stored_iff verb.kind).mp closed
    refine ⟨⟨gate, guarded, closedEarly⟩, fun ⟨rows, updates⟩ => other ⟨?_, updates⟩⟩
    exact Option.some.inj (guarded.symm.trans rows)
  · rintro ⟨⟨gate, guarded, closed⟩, other⟩
    refine ⟨gate, guarded, (gate.accepts_stored_iff verb.kind).mpr ⟨closed, ?_⟩⟩
    rintro ⟨rfl, updates⟩
    exact other ⟨guarded, updates⟩

/-- A DELETE takes no rows of a nested SELECT, whichever of them comes first. -/
theorem late_gate_iff_deletedRows :
    (({} : Statement).apply (.valuesFrom readsTable)).firstError = none ∧
      (({} : Statement).apply (.valuesFrom readsTable)).isEmpty = false ∧
      (({} : Statement).apply (.deleteFrom "t")).firstError = none ∧
      (((({} : Statement).apply (.valuesFrom readsTable)).apply (.deleteFrom "t")).ClauseRefused ↔
        ((({} : Statement).apply (.deleteFrom "t")).apply (.valuesFrom readsTable)).ClauseRefused ∧
          ¬ ((Call.valuesFrom readsTable).gate? = some .insertedRows ∧ Kind.delete = .update)) :=
  ⟨rfl, rfl, rfl, @late_gate_iff (.valuesFrom readsTable) (.deleteFrom "t")
    { kind := .delete, table := some "t" } rfl rfl rfl rfl rfl⟩

/-- An UPDATE takes no rows of a nested SELECT, but a statement that holds them can be made an
UPDATE. -/
theorem not_late_gate_updatedRows :
    ¬ ∀ c v : Call, (∀ place t, .nested t ∈ c.operandsAt place → Reachable t) →
      c.verb? = none → v.verb?.isSome → (({} : Statement).apply c).firstError = none →
        (({} : Statement).apply c).isEmpty = false → (({} : Statement).apply v).firstError = none →
          ((({} : Statement).apply v).apply c).ClauseRefused →
            ((({} : Statement).apply c).apply v).ClauseRefused := by
  intro agree
  have given : ∀ place t, .nested t ∈ (Call.valuesFrom readsTable).operandsAt place →
      Reachable t := by
    simp [Place.forall_iff, Call.operandsAt, reachable_readsTable]
  obtain ⟨clause, kind, refused⟩ := agree (.valuesFrom readsTable) (.updateTable "t") given rfl rfl
    rfl rfl rfl ⟨Clause.insertedRows.name, .update, rfl⟩
  cases refused

end Statement
end SqlBuilder
