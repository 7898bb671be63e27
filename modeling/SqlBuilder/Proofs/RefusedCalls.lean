import SqlBuilder.Proofs.Facets

/-!
# Refused calls

A call is refused because of the verb or the kind of the statement, because of the name of a common
table expression, because of the form of the values, or because of a nested statement that is unfit
for its place (`Statement.Refuses`). A refused call leaves nothing but its error behind. An unfit
statement stops only part of a call that gives a verb, takes a list or replaces something, so there
it is no refusal; in all other calls an error is a refusal or that of a nested statement which is
stored (`Statement.refuses_or_adopts`). The calls that name a source or start a group of conditions
afresh have dropped the earlier name or conditions by the time they meet an unfit statement
(`Statement.replaced_kept_iff`).
-/
namespace SqlBuilder

/-! ### Errors that are met -/

section

variable {s : Statement} {c : Call} {place : Place} {context : String} {mixing? : Option Error}

theorem Call.isSome_error?_of_barrier (barred : (c.barrier? s).isSome) : (c.error? s).isSome := by
  rw [Call.error?, Option.isSome_or, barred, Bool.true_or]

theorem Call.isSome_error?_of_objection {offer : Place × Operand} (given : offer ∈ c.offers)
    (objected : (c.objection? s offer).isSome) : (c.error? s).isSome := by
  have found : (c.offers.findSome? (c.objection? s)).isSome :=
    List.findSome?_isSome_iff.mpr ⟨offer, given, objected⟩
  rw [Call.error?, Option.isSome_or, found, Bool.or_true]

theorem Place.isSome_objection?_of_unfit {t : Statement} (unfit : (place.unfit? context t).isSome) :
    (place.objection? context mixing? (.nested t)).isSome := by
  rw [Place.objection?]
  split <;> simp [unfit]

theorem Place.isSome_objection?_of_mixing (mixed : mixing?.isSome) (operand : Operand) :
    (place.objection? context mixing? operand).isSome := by
  cases operand with
  | sql text => exact mixed
  | nested t =>
    rw [Place.objection?]
    split <;> simp [mixed]

end

/-! ### Calls that are refused -/

/-- Whether the call is applied in full or not at all. -/
def Call.isWhole : Call → Bool
  | .select _ | .addSelect _ | .insertInto _ | .updateTable _ | .deleteFrom _ => false
  | .readFromAs _ _ | .restrict _ .replacing _ _ | .restrictAll _ _ => false
  | .values _ | .valuesList _ => false
  | _ => true

namespace Statement

/-- Why the statement takes nothing of a call. -/
inductive Refuses (s : Statement) : Call → Prop where
  | verb {c : Call} {verb : Verb} (asked : c.verb? = some verb)
      (conflict : (s.verbError? verb.kind).isSome) : Refuses s c
  | clause {c : Call} {clause : Clause} (needed : c.gate? = some clause)
      (excluded : (s.gateError? clause).isSome) : Refuses s c
  | name {name : String} {columns : Option (List String)} {recursive : Bool} {body : Statement}
      (unusable : (s.nameError? name).isSome) : Refuses s (.withCte name columns recursive body)
  | mixedList {added : List Operand} (mixed : (s.mixingError? Payload.isPositional).isSome) :
      Refuses s (.valuesList added)
  | mixedColumn {column : String} {value : Operand}
      (mixed : (s.mixingError? Payload.isNamed).isSome) : Refuses s (.setColumn column value)
  | mixedRows {child : Statement} (mixed : (s.mixingError? Payload.isEmpty).isSome) :
      Refuses s (.valuesFrom child)
  /-- A nested statement has no verb, has no content or is no SELECT, whatever the place asks. -/
  | operand {c : Call} {place : Place} {t : Statement} (whole : c.isWhole = true)
      (given : (place, .nested t) ∈ c.offers) (unfit : (place.unfit? (c.context place) t).isSome) :
      Refuses s c

variable {s : Statement} {c : Call}

/-! ### What a refused call leaves as it was -/

theorem withoutError_become_of_conflict {kind : Kind} {change : Statement → Statement}
    (conflict : (s.verbError? kind).isSome) :
    (s.become kind change).withoutError = s.withoutError := by
  obtain ⟨e, found⟩ := Option.isSome_iff_exists.mp conflict
  rw [become_eq_fail found]
  rfl

theorem withoutError_ifAccepts {clause : Clause} {change : Statement → Statement}
    (kept : (change s).withoutError = s.withoutError) :
    (s.ifAccepts clause change).withoutError = s.withoutError := by
  unfold ifAccepts
  split
  · exact kept
  · split
    · exact kept
    · rfl

theorem withoutError_ifAccepts_of_excluded {clause : Clause} {change : Statement → Statement}
    (excluded : (s.gateError? clause).isSome) :
    (s.ifAccepts clause change).withoutError = s.withoutError := by
  obtain ⟨e, found⟩ := Option.isSome_iff_exists.mp excluded
  rw [ifAccepts_eq_fail found]
  rfl

theorem withoutError_of_conflict {verb : Verb} (asked : c.verb? = some verb)
    (conflict : (s.verbError? verb.kind).isSome) :
    (s.apply c).withoutError = s.withoutError := by
  cases c with
  | select | addSelect | insertInto | updateTable | deleteFrom =>
    cases asked
    exact withoutError_become_of_conflict conflict
  | _ => cases asked

theorem withoutError_of_excluded {clause : Clause} (needed : c.gate? = some clause)
    (excluded : (s.gateError? clause).isSome) :
    (s.apply c).withoutError = s.withoutError := by
  cases c with
  | selectDistinct flag =>
    cases flag <;> cases needed
    rw [apply, selectDistinct, if_pos rfl]
    exact withoutError_ifAccepts_of_excluded excluded
  | restrictByExistence placement negated child =>
    cases needed
    rw [apply, restrictByExistence]
    split <;> exact withoutError_ifAccepts_of_excluded excluded
  | select | addSelect | insertInto | updateTable | deleteFrom | withCte | aliasAs => cases needed
  | _ =>
    cases needed
    exact withoutError_ifAccepts_of_excluded excluded

theorem withoutError_of_unusable {name : String} (columns : Option (List String))
    (recursive : Bool) (body : Statement) (unusable : (s.nameError? name).isSome) :
    (s.withCte name columns recursive body).withoutError = s.withoutError := by
  unfold withCte
  split
  · rfl
  next visible =>
    split
    · rfl
    next fresh =>
      rw [nameError?, if_neg visible, if_neg fresh] at unusable
      cases unusable

theorem withoutError_of_mixedList (added : List Operand)
    (mixed : (s.mixingError? Payload.isPositional).isSome) :
    (s.valuesList added).withoutError = s.withoutError := by
  refine withoutError_ifAccepts ?_
  unfold mixingError? at mixed
  rcases held : s.payload with _ | values | pairs | rows
  · simp [held] at mixed
  · simp [held, Payload.isPositional] at mixed
  · rfl
  · rfl

theorem withoutError_of_mixedColumn (column : String) (value : Operand)
    (mixed : (s.mixingError? Payload.isNamed).isSome) :
    (s.setColumn column value).withoutError = s.withoutError := by
  refine withoutError_ifAccepts ?_
  unfold mixingError? at mixed
  unfold putValue
  dsimp only
  split
  · rfl
  · rw [payload_record]
    rcases held : s.payload with _ | values | pairs | rows
    · simp [held] at mixed
    · rfl
    · simp [held, Payload.isNamed] at mixed
    · rfl

theorem withoutError_of_mixedRows (child : Statement)
    (mixed : (s.mixingError? Payload.isEmpty).isSome) :
    (s.valuesFrom child).withoutError = s.withoutError := by
  refine withoutError_ifAccepts ?_
  have filled : s.payload.any (!·.isEmpty) = true := by
    unfold mixingError? at mixed
    cases held : s.payload with
    | none => simp [held] at mixed
    | some payload => simpa [held] using mixed
  rcases child.kind with _ | kind
  · rfl
  cases kind with
  | select =>
    dsimp only
    rw [if_pos filled]
    rfl
  | insert | update | delete => rfl

/-! ### Unfit statements -/

theorem withoutError_readFrom {source : Operand} (lacks : source.lacksVerb = true) :
    (s.readFrom source).withoutError = s.withoutError := by
  refine withoutError_ifAccepts ?_
  dsimp only
  rw [if_pos lacks]
  rfl

theorem withoutError_join_of_target (form : JoinForm) {target : Operand}
    (condition : Option Operand) (lacks : target.lacksVerb = true) :
    (s.join form target condition).withoutError = s.withoutError := by
  refine withoutError_ifAccepts ?_
  dsimp only
  rw [if_pos lacks]
  rfl

theorem withoutError_join_of_condition (form : JoinForm) (target : Operand) {t : Statement}
    (empty : t.isEmpty = true) :
    (s.join form target (some (.nested t))).withoutError = s.withoutError := by
  refine withoutError_ifAccepts ?_
  dsimp only
  split
  · rfl
  · rw [if_pos (by simpa [Operand.statement?] using empty)]
    rfl

theorem withoutError_union (keepDuplicates : Bool) {member : Statement}
    (unfit : member.kind ≠ some .select) :
    (s.union keepDuplicates member).withoutError = s.withoutError := by
  refine withoutError_ifAccepts ?_
  dsimp only
  split
  · rfl
  next selects => exact absurd selects unfit
  · rfl

theorem withoutError_withCte (name : String) (columns : Option (List String)) (recursive : Bool)
    {body : Statement} (untyped : body.kind.isNone) :
    (s.withCte name columns recursive body).withoutError = s.withoutError := by
  unfold withCte
  rw [if_pos untyped]
  split
  · rfl
  · split <;> rfl

theorem withoutError_setColumn (column : String) {value : Operand}
    (lacks : value.lacksVerb = true) :
    (s.setColumn column value).withoutError = s.withoutError := by
  refine withoutError_ifAccepts ?_
  unfold putValue
  dsimp only
  rw [if_pos lacks]
  rfl

theorem withoutError_valuesFrom {child : Statement} (unfit : child.kind ≠ some .select) :
    (s.valuesFrom child).withoutError = s.withoutError := by
  refine withoutError_ifAccepts ?_
  dsimp only
  split
  · rfl
  next selects => exact absurd selects unfit
  · rfl

/-- An empty statement is no condition. Only a condition that is joined to others leaves them as
they were. -/
theorem withoutError_restrict (restriction : Restriction) (connector : Connector)
    (modifier : Option Modifier) {t : Statement} (empty : t.isEmpty = true) :
    (s.restrict restriction (.joinedBy connector) modifier (.nested t)).withoutError =
      s.withoutError := by
  have invisible : (Operand.nested t).isEmpty = true := empty
  refine withoutError_ifAccepts ?_
  dsimp only
  rw [pushCondition, if_pos invisible]
  rfl

theorem withoutError_restrictByExistence (placement : Placement) (negated : Bool)
    {child : Statement} (empty : child.isEmpty = true) :
    (s.restrictByExistence placement negated child).withoutError = s.withoutError := by
  rw [restrictByExistence, if_pos empty]
  exact withoutError_ifAccepts rfl

/-- An unfit statement is looked at before anything is stored. -/
theorem withoutError_of_unfit {place : Place} {t : Statement} (whole : c.isWhole = true)
    (given : (place, .nested t) ∈ c.offers) (unfit : (place.unfit? (c.context place) t).isSome) :
    (s.apply c).withoutError = s.withoutError := by
  cases c with
  | readFrom source =>
    simp only [Call.offers, List.mem_singleton, Prod.mk.injEq] at given
    obtain ⟨rfl, rfl⟩ := given
    exact withoutError_readFrom (by simpa [Place.unfit?, Operand.lacksVerb] using unfit)
  | join form target condition =>
    simp only [Call.offers, List.mem_cons, Prod.mk.injEq, List.mem_map, Option.mem_toList] at given
    rcases given with ⟨rfl, rfl⟩ | ⟨operand, rfl, rfl, rfl⟩
    · refine withoutError_join_of_target form condition ?_
      simpa [Place.unfit?, Operand.lacksVerb] using unfit
    · exact withoutError_join_of_condition form target (by simpa [Place.unfit?] using unfit)
  | union keepDuplicates member =>
    simp only [Call.offers, List.mem_singleton, Prod.mk.injEq] at given
    obtain ⟨rfl, ⟨⟩⟩ := given
    refine withoutError_union keepDuplicates fun selects => ?_
    simp [Place.unfit?, selects] at unfit
  | withCte name columns recursive body =>
    simp only [Call.offers, List.mem_singleton, Prod.mk.injEq] at given
    obtain ⟨rfl, ⟨⟩⟩ := given
    exact withoutError_withCte name columns recursive (by simpa [Place.unfit?] using unfit)
  | restrict restriction placement negated body =>
    simp only [Call.offers, List.mem_singleton, Prod.mk.injEq] at given
    obtain ⟨rfl, rfl⟩ := given
    cases placement with
    | replacing => cases whole
    | joinedBy connector =>
      refine withoutError_restrict restriction connector _ ?_
      cases restriction <;> simpa [Place.unfit?, Restriction.place] using unfit
  | restrictByExistence placement negated child =>
    simp only [Call.offers, List.mem_singleton, Prod.mk.injEq] at given
    obtain ⟨rfl, ⟨⟩⟩ := given
    exact withoutError_restrictByExistence placement negated (by simpa [Place.unfit?] using unfit)
  | setColumn column value =>
    simp only [Call.offers, List.mem_singleton, Prod.mk.injEq] at given
    obtain ⟨rfl, rfl⟩ := given
    exact withoutError_setColumn column (by simpa [Place.unfit?, Operand.lacksVerb] using unfit)
  | valuesFrom child =>
    simp only [Call.offers, List.mem_singleton, Prod.mk.injEq] at given
    obtain ⟨rfl, ⟨⟩⟩ := given
    refine withoutError_valuesFrom fun selects => ?_
    simp [Place.unfit?, selects] at unfit
  | select | addSelect | insertInto | updateTable | deleteFrom | readFromAs | restrictAll
  | values | valuesList => cases whole
  | _ => cases given

theorem Refuses.withoutError_eq (refused : s.Refuses c) :
    (s.apply c).withoutError = s.withoutError := by
  cases refused with
  | verb asked conflict => exact withoutError_of_conflict asked conflict
  | clause needed excluded => exact withoutError_of_excluded needed excluded
  | name unusable => exact withoutError_of_unusable _ _ _ unusable
  | mixedList mixed => exact withoutError_of_mixedList _ mixed
  | mixedColumn mixed => exact withoutError_of_mixedColumn _ _ mixed
  | mixedRows mixed => exact withoutError_of_mixedRows _ mixed
  | operand whole given unfit => exact withoutError_of_unfit whole given unfit

/-! ### What a refused call records -/

theorem Refuses.isSome_error? (refused : s.Refuses c) : (c.error? s).isSome := by
  cases refused with
  | verb asked conflict =>
    apply Call.isSome_error?_of_barrier
    unfold Call.barrier?
    rw [asked, Option.bind_some, Option.isSome_or, Option.isSome_or, conflict, Bool.true_or,
      Bool.true_or]
  | clause needed excluded =>
    apply Call.isSome_error?_of_barrier
    unfold Call.barrier?
    rw [needed, Option.bind_some, Option.isSome_or, Option.isSome_or, excluded, Bool.true_or,
      Bool.or_true]
  | name unusable => exact Call.isSome_error?_of_barrier (by simp [Call.barrier?, unusable])
  | mixedList mixed => exact Call.isSome_error?_of_barrier (by simp [Call.barrier?, mixed])
  | mixedColumn mixed =>
    exact Call.isSome_error?_of_objection List.mem_cons_self
      (Place.isSome_objection?_of_mixing mixed _)
  | mixedRows mixed =>
    exact Call.isSome_error?_of_objection List.mem_cons_self
      (Place.isSome_objection?_of_mixing mixed _)
  | operand whole given unfit =>
    exact Call.isSome_error?_of_objection given (Place.isSome_objection?_of_unfit unfit)

/-! ### Nothing else is refused -/

theorem Refuses.of_mixing (whole : c.isWhole = true) (mixed : (c.mixingError? s).isSome) :
    s.Refuses c := by
  cases c with
  | setColumn => exact .mixedColumn mixed
  | valuesFrom => exact .mixedRows mixed
  | values | valuesList => cases whole
  | _ => cases mixed

theorem Refuses.of_barrier (whole : c.isWhole = true) (barred : (c.barrier? s).isSome) :
    s.Refuses c := by
  have verbless : c.verb? = none := by
    cases c with
    | select | addSelect | insertInto | updateTable | deleteFrom => cases whole
    | _ => rfl
  unfold Call.barrier? at barred
  rw [verbless, Option.bind_none, Option.none_or, Option.isSome_or, Bool.or_eq_true] at barred
  rcases barred with excluded | later
  · cases needed : c.gate? with
    | none =>
      rw [needed] at excluded
      cases excluded
    | some clause =>
      rw [needed] at excluded
      exact .clause needed excluded
  · cases c with
    | withCte => exact .name later
    | valuesList => cases whole
    | _ => cases later

/-- A call that is applied in full or not at all, and meets an error without being refused, takes
over the error of a nested statement that is fit for its place. -/
theorem refuses_or_adopts {e : Error} (whole : c.isWhole = true) (met : c.error? s = some e) :
    s.Refuses c ∨ ∃ place t, (place, .nested t) ∈ c.offers ∧ t.firstError = some e ∧
      place.unfit? (c.context place) t = none := by
  by_cases refused : s.Refuses c
  · exact .inl refused
  have unbarred : c.barrier? s = none :=
    Option.not_isSome_iff_eq_none.mp fun barred => refused (.of_barrier whole barred)
  have unmixed : c.mixingError? s = none :=
    Option.not_isSome_iff_eq_none.mp fun mixed => refused (.of_mixing whole mixed)
  rw [Call.error?, unbarred, Option.none_or] at met
  obtain ⟨⟨place, operand⟩, given, objected⟩ := List.exists_of_findSome?_eq_some met
  rw [Call.objection?, unmixed] at objected
  cases operand with
  | sql text => cases objected
  | nested t =>
    have fit : place.unfit? (c.context place) t = none :=
      Option.not_isSome_iff_eq_none.mp fun unfit => refused (.operand whole given unfit)
    simp only [Place.objection?, fit, Option.or_none, Option.none_or, ite_self] at objected
    exact .inr ⟨place, t, given, objected, fit⟩

end Statement

/-- A refused call is not applied: all it leaves behind is the first error that it meets. -/
theorem Statement.apply_refused {s : Statement} {c : Call} (refused : s.Refuses c) :
    (s.apply c).withoutError = s.withoutError ∧
      ∃ e, c.error? s = some e ∧ (s.apply c).firstError = s.firstError.or (some e) := by
  obtain ⟨e, met⟩ := Option.isSome_iff_exists.mp refused.isSome_error?
  refine ⟨refused.withoutError_eq, e, met, ?_⟩
  rw [← met]
  exact s.records_apply c

/-- An INSERT of a named value, with a common table expression. -/
def namedInsert : Statement :=
  ({} : Statement).run [.withCte "n" none false readsTable, .insertInto "t",
    .setColumn "a" (.sql "1")]

/-- A taken name, positional values, a WHERE and rows without a verb. -/
def callsRefusedByInsert : List Call :=
  [.withCte "n" (some ["b"]) true readsTable, .valuesList [.sql "2"],
    .restrictByExistence .replacing true {}, .valuesFrom {}]

theorem Statement.apply_refused_namedInsert :
    Reachable namedInsert ∧ (∀ c ∈ callsRefusedByInsert, namedInsert.Refuses c) ∧
      ∀ c ∈ callsRefusedByInsert, (namedInsert.apply c).withoutError = namedInsert.withoutError ∧
        ∃ e, c.error? namedInsert = some e ∧
          (namedInsert.apply c).firstError = namedInsert.firstError.or (some e) := by
  have reachable : Reachable namedInsert := by
    apply Reachable.start.run_of_offers
    simp [reachable_readsTable]
  have refused : ∀ c ∈ callsRefusedByInsert, namedInsert.Refuses c := by
    simp only [callsRefusedByInsert, List.forall_mem_cons, List.not_mem_nil, false_implies,
      implies_true, and_true]
    refine ⟨.name ?_, .mixedList ?_, .clause rfl ?_, .operand rfl List.mem_cons_self rfl⟩
    · decide
    · rfl
    · rfl
  exact ⟨reachable, refused, fun c listed => Statement.apply_refused (refused c listed)⟩

/-! ### Calls that replace something -/

/-- Whether the call takes something away before it looks at its operand. -/
def Call.clearsFirst : Call → Bool
  | .readFromAs _ _ | .restrict _ .replacing _ _ => true
  | _ => false

namespace Statement

variable {s t : Statement} {c : Call} {place : Place}

/-- What is left of a statement when a call that clears something first looks at a nested statement.
The source itself is not cleared, only its name. -/
def clearedFor (s : Statement) : Call → Statement
  | .readFromAs _ _ => { s with sourceAlias := none }
  | .restrict restriction _ _ _ => s.setConditionsOn restriction []
  | _ => s

/-- There is nothing for such a call to clear. -/
def NothingToClear (s : Statement) : Call → Prop
  | .readFromAs _ _ => s.sourceAlias = none
  | .restrict restriction _ _ _ => s.conditionsOn restriction = []
  | _ => True

theorem withoutError_clearedFor_iff :
    (s.clearedFor c).withoutError = s.withoutError ↔ s.NothingToClear c := by
  cases c with
  | readFromAs source name =>
    constructor
    · intro same
      exact (congrArg sourceAlias same).symm
    · intro unnamed
      rw [clearedFor, ← show s.sourceAlias = none from unnamed]
      rfl
  | restrict restriction placement negated body =>
    constructor
    · intro same
      cases restriction with
      | rows => exact (congrArg conditions same).symm
      | groups => exact (congrArg groupConditions same).symm
    · intro unconditional
      rw [clearedFor, ← show s.conditionsOn restriction = [] from unconditional]
      cases restriction <;> rfl
  | _ => exact iff_of_true rfl trivial

/-- An unfit statement is refused, but what it was to replace is gone. -/
theorem withoutError_of_clearsFirst (clears : c.clearsFirst = true)
    (opened : c.gate?.bind s.gateError? = none) (given : (place, .nested t) ∈ c.offers)
    (unfit : (place.unfit? (c.context place) t).isSome) :
    (s.apply c).withoutError = (s.clearedFor c).withoutError := by
  cases c with
  | readFromAs source name =>
    simp only [Call.offers, List.mem_singleton, Prod.mk.injEq] at given
    obtain ⟨rfl, rfl⟩ := given
    have untyped : t.kind.isNone := by simpa [Place.unfit?] using unfit
    rw [apply, readFromAs, ifAccepts_eq_of_open opened]
    dsimp only
    rw [if_pos untyped]
    rfl
  | restrict restriction placement negated body =>
    simp only [Call.offers, List.mem_singleton, Prod.mk.injEq] at given
    obtain ⟨rfl, rfl⟩ := given
    have empty : (Operand.nested t).isEmpty = true := by
      cases restriction <;> simpa [Place.unfit?, Restriction.place, Operand.isEmpty] using unfit
    cases placement with
    | joinedBy => cases clears
    | replacing =>
      rw [apply, restrict, ifAccepts_eq_of_open opened]
      dsimp only
      rw [pushCondition, if_pos empty]
      rfl
  | _ => cases clears

/-- A call that names a source anew or gives a group a new first condition, and refuses its nested
statement as empty, keeps what it was to replace only where that was absent: the name of the source
is dropped, the conditions of the group are dropped, and all else but the error stays. -/
theorem replaced_kept_iff (clears : c.clearsFirst = true)
    (opened : c.gate?.bind s.gateError? = none) (given : (place, .nested t) ∈ c.offers)
    (unfit : place.unfit? (c.context place) t = some (.emptySubquery (c.context place))) :
    (s.apply c).withoutError = (s.clearedFor c).withoutError ∧
      ((s.apply c).withoutError = s.withoutError ↔ s.NothingToClear c) := by
  have cleared := withoutError_of_clearsFirst clears opened given (by rw [unfit]; rfl)
  rw [cleared]
  exact ⟨rfl, withoutError_clearedFor_iff⟩

end Statement

/-- A SELECT from a named source with a condition. -/
def filteredSource : Statement :=
  ({} : Statement).run [.select [.sql "a"], .readFromAs (.sql "x") "t",
    .restrict .rows .replacing false (.sql "a = 1")]

theorem reachable_filteredSource : Reachable filteredSource := by
  apply Reachable.start.run_of_offers
  simp

/-- A statement without a verb is refused as a source, and the name of the source is gone. -/
theorem replaced_kept_iff_filteredSource :
    Reachable filteredSource ∧
      Place.unfit? .source "FROM" ({} : Statement) = some (.emptySubquery "FROM") ∧
      (filteredSource.apply (.readFromAs (.nested {}) "u")).withoutError =
        (filteredSource.clearedFor (.readFromAs (.nested {}) "u")).withoutError ∧
      ((filteredSource.apply (.readFromAs (.nested {}) "u")).withoutError =
          filteredSource.withoutError ↔
        filteredSource.NothingToClear (.readFromAs (.nested {}) "u")) :=
  ⟨reachable_filteredSource, rfl,
    Statement.replaced_kept_iff rfl rfl List.mem_cons_self rfl⟩

/-- A refused source costs the name of the one before it, and a refused condition the conditions
before it. -/
theorem not_replaced_kept_filteredSource :
    (¬ ∀ s t name, Reachable s → Reachable t → s.gateError? .source = none → t.kind = none →
        (s.apply (.readFromAs (.nested t) name)).withoutError = s.withoutError) ∧
      ¬ ∀ s t restriction negated, Reachable s → Reachable t →
        s.gateError? restriction.clause = none → t.isEmpty = true →
          (s.apply (.restrict restriction .replacing negated (.nested t))).withoutError =
            s.withoutError := by
  constructor
  · intro kept
    have claimed := kept filteredSource {} "u" reachable_filteredSource .start rfl rfl
    cases congrArg Statement.sourceAlias claimed
  · intro kept
    have claimed := kept filteredSource {} .rows false reachable_filteredSource .start rfl rfl
    cases congrArg Statement.conditions claimed

end SqlBuilder
