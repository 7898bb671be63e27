import SqlBuilder.Proofs.RefusedCalls

/-!
# The registry of common table expressions

A call that registers a common table expression is refused for a blank name, for a name that is
taken and for a body without a verb. What a statement holds is therefore decided by the history of
its calls: it has the entries of the calls that were not refused, in their order
(`Statement.accepted`), and those are, of the calls with a visible name and a body with a verb, the
first under each name (`Registration.firstOfEachName`). No other call touches the registry.
-/
namespace SqlBuilder

/-- What a call asks to be registered. -/
structure Registration where
  entry : Cte
  recursive : Bool

namespace Registration

def call (r : Registration) : Call :=
  .withCte r.entry.name r.entry.columns r.recursive r.entry.body

/-- Whether the entry is fit for a registry in which its name is free. -/
def isUsable (r : Registration) : Bool :=
  !Text.isBlank r.entry.name && r.entry.body.kind.isSome

/-- Of the registrations under one name only the first. -/
def firstOfEachName : List Registration → List Registration
  | [] => []
  | r :: rest => r :: (firstOfEachName rest).filter (·.entry.name ≠ r.entry.name)

theorem firstOfEachName_sublist (rs : List Registration) : (firstOfEachName rs).Sublist rs := by
  induction rs with
  | nil => exact .slnil
  | cons r rest ih => exact .cons_cons r (List.filter_sublist.trans ih)

theorem nodup_firstOfEachName (rs : List Registration) :
    ((firstOfEachName rs).map (·.entry.name)).Nodup := by
  induction rs with
  | nil => exact .nil
  | cons r rest ih =>
    rw [firstOfEachName, List.map_cons, List.nodup_cons]
    constructor
    · simp
    · exact ih.sublist (List.filter_sublist.map _)

section TakenNames

variable {r : Registration} {rest : List Registration} {names : List String}

theorem filter_firstOfEachName_of_taken (taken : r.entry.name ∈ names) :
    (firstOfEachName (r :: rest)).filter (·.entry.name ∉ names) =
      (firstOfEachName rest).filter (·.entry.name ∉ names) := by
  rw [firstOfEachName, List.filter_cons_of_neg (by simpa using taken), List.filter_filter]
  apply List.filter_congr
  intro later _
  by_cases same : later.entry.name = r.entry.name <;> simp [same, taken]

theorem filter_firstOfEachName_of_fresh (fresh : r.entry.name ∉ names) :
    (firstOfEachName (r :: rest)).filter (·.entry.name ∉ names) =
      r :: (firstOfEachName rest).filter (·.entry.name ∉ names ++ [r.entry.name]) := by
  rw [firstOfEachName, List.filter_cons_of_pos (by simpa using fresh), List.filter_filter]
  congr 1
  apply List.filter_congr
  simp

end TakenNames

end Registration

namespace Call

def registration? : Call → Option Registration
  | .withCte name listed recursive body => some ⟨⟨name, listed, body⟩, recursive⟩
  | _ => none

theorem registration?_call (r : Registration) : r.call.registration? = some r := by
  obtain ⟨⟨name, listed, body⟩, recursive⟩ := r
  rfl

theorem eq_call_of_registration? {c : Call} {r : Registration} (asked : c.registration? = some r) :
    c = r.call := by
  cases c with
  | withCte =>
    cases asked
    rfl
  | _ => cases asked

theorem ctes_ne_facet_of_registration? {c : Call} (other : c.registration? = none) :
    Facet.ctes ≠ c.facet := by
  cases c with
  | withCte => cases other
  | restrict restriction | restrictAll restriction =>
    cases restriction <;> simp [facet, Restriction.facet]
  | _ => simp [facet]

/-- The registrations in a run that could be accepted. -/
def usable (calls : List Call) : List Registration :=
  (calls.filterMap registration?).filter Registration.isUsable

section Usable

variable {c : Call} {r : Registration}

theorem usable_cons_of_other (other : c.registration? = none) (rest : List Call) :
    usable (c :: rest) = usable rest := by
  rw [usable, List.filterMap_cons_none other, usable]

theorem usable_cons_of_unusable (unusable : ¬ r.isUsable = true) (rest : List Call) :
    usable (r.call :: rest) = usable rest := by
  rw [usable, List.filterMap_cons_some (registration?_call r), List.filter_cons_of_neg unusable,
    usable]

theorem usable_cons_of_usable (fit : r.isUsable = true) (rest : List Call) :
    usable (r.call :: rest) = r :: usable rest := by
  rw [usable, List.filterMap_cons_some (registration?_call r), List.filter_cons_of_pos fit, usable]

end Usable

end Call

namespace Statement

variable {s : Statement} {c : Call} {r : Registration}

theorem isSome_nameError?_iff {name : String} :
    (s.nameError? name).isSome ↔ Text.isBlank name = true ∨ name ∈ s.cteNames := by
  unfold nameError?
  by_cases blank : Text.isBlank name = true
  · simp [blank]
  · by_cases taken : name ∈ s.cteNames <;> simp [blank, taken]

/-- A registration is refused for its name or for its body. -/
theorem refuses_call_iff :
    s.Refuses r.call ↔ (s.nameError? r.entry.name).isSome ∨ r.entry.body.kind = none := by
  constructor
  · intro refuses
    generalize called : r.call = c at refuses
    cases refuses with
    | name unusable =>
      cases called
      exact .inl unusable
    | operand whole given unfit =>
      cases called
      simp only [Registration.call, Call.offers, List.mem_singleton, Prod.mk.injEq] at given
      obtain ⟨rfl, ⟨⟩⟩ := given
      exact .inr (by simpa [Place.unfit?] using unfit)
    | verb asked | clause asked =>
      subst called
      cases asked
    | mixedList | mixedColumn | mixedRows => cases called
  · rintro (unusable | untyped)
    · exact .name unusable
    · exact .operand rfl List.mem_cons_self (by simp [Place.unfit?, untyped])

theorem not_refuses_call_iff :
    ¬ s.Refuses r.call ↔ r.isUsable = true ∧ r.entry.name ∉ s.cteNames := by
  rw [refuses_call_iff, isSome_nameError?_iff, Registration.isUsable]
  cases r.entry.body.kind <;> simp

instance (s : Statement) (r : Registration) : Decidable (s.Refuses r.call) :=
  decidable_of_iff _ refuses_call_iff.symm

/-! ### One call -/

theorem registry_of_refused (refused : s.Refuses r.call) :
    (s.apply r.call).ctes = s.ctes ∧ (s.apply r.call).recursive = s.recursive := by
  have frame : ((s.apply r.call).ctes, (s.apply r.call).recursive) = (s.ctes, s.recursive) :=
    congrArg (fun t => (t.ctes, t.recursive)) refused.withoutError_eq
  exact Prod.mk.inj frame

theorem registry_of_not_refused (fit : ¬ s.Refuses r.call) :
    (s.apply r.call).ctes = s.ctes ++ [r.entry] ∧
      (s.apply r.call).recursive = (s.recursive || r.recursive) := by
  obtain ⟨usable, fresh⟩ := not_refuses_call_iff.mp fit
  obtain ⟨⟨name, listed, body⟩, recursive⟩ := r
  obtain ⟨visible, typed⟩ : Text.isBlank name = false ∧ body.kind.isSome := by
    simpa [Registration.isUsable] using usable
  have registered : s.withCte name listed recursive body = { s.record body.firstError with
      ctes := s.ctes ++ [⟨name, listed, body⟩]
      recursive := s.recursive || recursive } := by
    rw [withCte, if_neg (Bool.eq_false_iff.mp visible), if_neg (by simpa using fresh),
      if_neg (by simpa using Option.isSome_iff_ne_none.mp typed)]
  rw [Registration.call, apply, registered]
  exact ⟨rfl, rfl⟩

theorem registry_of_other (other : c.registration? = none) (s : Statement) :
    (s.apply c).ctes = s.ctes ∧ (s.apply c).recursive = s.recursive := by
  have frame : ((s.apply c).ctes, (s.apply c).recursive) = (s.ctes, s.recursive) :=
    @apply_frame .ctes _ (fun s => (s.ctes, s.recursive)) c (fun _ => rfl) (fun _ _ => rfl)
      (Call.ctes_ne_facet_of_registration? other) (by decide) s
  exact Prod.mk.inj frame

/-! ### Runs -/

/-- The registrations in a run that are not refused where they stand. -/
def accepted (s : Statement) : List Call → List Registration
  | [] => []
  | c :: rest =>
      let later := (s.apply c).accepted rest
      match c.registration? with
      | none => later
      | some r => if s.Refuses r.call then later else r :: later

section Cons

variable {rest : List Call}

theorem accepted_cons_of_other (other : c.registration? = none) :
    s.accepted (c :: rest) = (s.apply c).accepted rest := by
  simp only [accepted, other]

theorem accepted_cons_of_refused (refused : s.Refuses r.call) :
    s.accepted (r.call :: rest) = (s.apply r.call).accepted rest := by
  simp only [accepted, Call.registration?_call, if_pos refused]

theorem accepted_cons_of_not_refused (fit : ¬ s.Refuses r.call) :
    s.accepted (r.call :: rest) = r :: (s.apply r.call).accepted rest := by
  simp only [accepted, Call.registration?_call, if_neg fit]

end Cons

/-- A run adds the entries of its accepted registrations, in their order. -/
theorem registry_run (s : Statement) (calls : List Call) :
    (s.run calls).ctes = s.ctes ++ (s.accepted calls).map (·.entry) ∧
      (s.run calls).recursive = (s.recursive || (s.accepted calls).any (·.recursive)) := by
  induction calls generalizing s with
  | nil => simp [accepted, run]
  | cons c rest ih =>
    obtain ⟨ctes, recursive⟩ := ih (s.apply c)
    rw [run_cons, ctes, recursive]
    cases asked : c.registration? with
    | none =>
      obtain ⟨sameCtes, sameMark⟩ := registry_of_other asked s
      rw [accepted_cons_of_other asked, sameCtes, sameMark]
      exact ⟨rfl, rfl⟩
    | some r =>
      obtain rfl := Call.eq_call_of_registration? asked
      by_cases refused : s.Refuses r.call
      · obtain ⟨sameCtes, sameMark⟩ := registry_of_refused refused
        rw [accepted_cons_of_refused refused, sameCtes, sameMark]
        exact ⟨rfl, rfl⟩
      · obtain ⟨moreCtes, mark⟩ := registry_of_not_refused refused
        simp [accepted_cons_of_not_refused refused, moreCtes, mark, Bool.or_assoc]

/-- Which registrations are accepted can be told without following the run: the names that the
statement holds already are taken, and so is a name behind its first usable registration. -/
theorem accepted_eq (s : Statement) (calls : List Call) :
    s.accepted calls = (Registration.firstOfEachName (Call.usable calls)).filter
      (·.entry.name ∉ s.cteNames) := by
  induction calls generalizing s with
  | nil => rfl
  | cons c rest ih =>
    cases asked : c.registration? with
    | none =>
      have sameNames : (s.apply c).cteNames = s.cteNames := by
        rw [cteNames, (registry_of_other asked s).1, cteNames]
      rw [accepted_cons_of_other asked, ih, sameNames, Call.usable_cons_of_other asked]
    | some r =>
      obtain rfl := Call.eq_call_of_registration? asked
      by_cases refused : s.Refuses r.call
      · have sameNames : (s.apply r.call).cteNames = s.cteNames := by
          rw [cteNames, (registry_of_refused refused).1, cteNames]
        rw [accepted_cons_of_refused refused, ih, sameNames]
        by_cases usable : r.isUsable = true
        · have taken : r.entry.name ∈ s.cteNames :=
            Decidable.byContradiction fun fresh =>
              not_refuses_call_iff.mpr ⟨usable, fresh⟩ refused
          rw [Call.usable_cons_of_usable usable,
            Registration.filter_firstOfEachName_of_taken taken]
        · rw [Call.usable_cons_of_unusable usable]
      · obtain ⟨usable, fresh⟩ := not_refuses_call_iff.mp refused
        have moreNames : (s.apply r.call).cteNames = s.cteNames ++ [r.entry.name] := by
          rw [cteNames, (registry_of_not_refused refused).1, List.map_append, cteNames]
          rfl
        rw [accepted_cons_of_not_refused refused, ih, moreNames, Call.usable_cons_of_usable usable,
          Registration.filter_firstOfEachName_of_fresh fresh]

theorem accepted_start (calls : List Call) :
    ({} : Statement).accepted calls = Registration.firstOfEachName (Call.usable calls) := by
  rw [accepted_eq]
  exact List.filter_eq_self.mpr fun _ _ => rfl

/-- After any run, a statement holds the entries of the accepted registrations, in their order and
each with the column list and the body it was given, and it is recursive if one of them is. They
are the first under each name of those with a visible name and a body with a verb, so the names are
distinct and visible and the bodies have a verb. -/
theorem run_registry (calls : List Call) :
    (({} : Statement).run calls).cteNames.Nodup ∧
      (∀ cte ∈ (({} : Statement).run calls).ctes,
        Text.isBlank cte.name = false ∧ cte.body.kind.isSome) ∧
      (({} : Statement).run calls).ctes = (({} : Statement).accepted calls).map (·.entry) ∧
      ((({} : Statement).run calls).recursive = true ↔
        ∃ r ∈ ({} : Statement).accepted calls, r.recursive = true) ∧
      ({} : Statement).accepted calls = Registration.firstOfEachName (Call.usable calls) := by
  obtain ⟨ctes, recursive⟩ := registry_run {} calls
  rw [cteNames, ctes, recursive, accepted_start]
  refine ⟨?_, ?_, rfl, ?_, rfl⟩
  · rw [show ({} : Statement).ctes = [] from rfl, List.nil_append, List.map_map]
    exact Registration.nodup_firstOfEachName (Call.usable calls)
  · intro cte held
    obtain ⟨r, first, rfl⟩ := List.mem_map.mp held
    have given : r ∈ Call.usable calls := (Registration.firstOfEachName_sublist _).subset first
    simpa [Registration.isUsable] using (List.mem_filter.mp given).2
  · simp

/-- A body without a verb, a first entry, another one under its name, a blank name and a recursive
entry. -/
example :
    (({} : Statement).run [.withCte "a" none true {}, .withCte "a" (some ["x"]) false readsTable,
      .select [.sql "*"], .withCte "a" none true readsTable, .withCte " " none true readsTable,
      .withCte "b" none true readsTable]).cteNames = ["a", "b"] := by
  decide +kernel

end Statement
end SqlBuilder
