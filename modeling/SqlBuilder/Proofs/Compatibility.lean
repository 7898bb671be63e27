import SqlBuilder.Proofs.Reachable

/-!
# Kinds and clauses

A statement that has its verb holds only clauses its kind accepts. The kind is checked twice, when a
clause is added and when a verb is set, and the source is shared by FROM and the table that a
statement writes, so the invariant also says what the source of each kind is. Each clause call is
described by `Statement.Fills`; `Reachable.compatible` is the run lemma.
-/
namespace SqlBuilder.Statement

/-- The clauses of a statement that has its verb, its source apart. -/
structure Compatible (s : Statement) : Prop where
  accepted : ∀ kind, s.kind = some kind → ∀ clause ∈ Clause.checked, clause ≠ .source →
    clause.populated s = true → clause.accepts kind = true
  aliased : s.sourceAlias.isSome → s.source.isSome ∧ (s.kind = none ∨ s.kind = some .select)
  /-- Statements that write rows have a table unless they were refused one. -/
  table : ∀ kind, s.kind = some kind → kind ≠ .select →
    (∃ table, s.source = some (.sql table) ∧ Text.isBlank table = false) ∨
      (s.source = none ∧ s.firstError.isSome)

/-- The change fills no clause but those that go with the gate it stands behind. -/
structure Fills (gate : Clause) (s s' : Statement) : Prop where
  kind : s'.kind = s.kind
  sticky : s.firstError.isSome → s'.firstError.isSome
  filled : ∀ clause ∈ Clause.checked, clause ≠ .source → clause.populated s' = true →
    clause.populated s = true ∨ ∀ kind, gate.accepts kind = true → clause.accepts kind = true
  source : (s'.source = s.source ∧ s'.sourceAlias = s.sourceAlias) ∨
    (gate = .source ∧ (s'.sourceAlias.isSome → s'.source.isSome))

variable {gate : Clause} {s t u : Statement}

theorem isSome_or_of_isSome {α : Type} {a b : Option α} (h : a.isSome) : (a.or b).isSome := by
  rw [Option.isSome_or, h, Bool.true_or]

namespace Fills

theorem refl (s : Statement) : Fills gate s s :=
  ⟨rfl, fun h => h, fun _ _ _ h => .inl h, .inl ⟨rfl, rfl⟩⟩

theorem record (s : Statement) (error? : Option Error) : Fills gate s (s.record error?) := by
  refine ⟨rfl, isSome_or_of_isSome, ?_, .inl ⟨rfl, rfl⟩⟩
  intro clause _ _ populated
  cases clause <;> exact .inl populated

theorem trans (first : Fills gate s t) (second : Fills gate t u) : Fills gate s u := by
  refine ⟨second.kind.trans first.kind, fun h => second.sticky (first.sticky h), ?_, ?_⟩
  · intro clause checked notSource populated
    rcases second.filled clause checked notSource populated with before | goes
    · exact first.filled clause checked notSource before
    · exact .inr goes
  · rcases second.source with ⟨sameSource, sameAlias⟩ | changed
    · rw [sameSource, sameAlias]
      exact first.source
    · exact .inr changed

theorem foldl {α : Type} {step : Statement → α → Statement}
    (each : ∀ t item, Fills gate t (step t item)) (items : List α) (s : Statement) :
    Fills gate s (items.foldl step s) := by
  induction items generalizing s with
  | nil => exact refl s
  | cons item rest ih => exact (each s item).trans (ih _)

end Fills

namespace Compatible

/-- A change behind an open gate. -/
theorem ofFills (before : s.Compatible) (fills : Fills gate s t)
    (opened : ∀ kind, s.kind = some kind → gate.accepts kind = true) : t.Compatible := by
  refine ⟨?_, ?_, ?_⟩
  · intro kind typed clause checked notSource populated
    rw [fills.kind] at typed
    rcases fills.filled clause checked notSource populated with held | goes
    · exact before.accepted kind typed clause checked notSource held
    · exact goes kind (opened kind typed)
  · intro named
    rw [fills.kind]
    rcases fills.source with ⟨sameSource, sameAlias⟩ | ⟨rfl, hasSource⟩
    · rw [sameSource]
      exact before.aliased (sameAlias ▸ named)
    · refine ⟨hasSource named, ?_⟩
      cases typed : s.kind with
      | none => exact .inl rfl
      | some kind => exact .inr (congrArg some (by simpa [Clause.accepts] using opened kind typed))
  · intro kind typed writes
    rw [fills.kind] at typed
    rcases fills.source with ⟨sameSource, _⟩ | ⟨rfl, _⟩
    · rw [sameSource]
      exact (before.table kind typed writes).imp_right fun ⟨absent, failed⟩ =>
        ⟨absent, fills.sticky failed⟩
    · exact absurd (by simpa [Clause.accepts] using opened kind typed) writes

/-- A change that fills nothing needs no gate. -/
theorem ofUnfilled (before : s.Compatible) (kind : t.kind = s.kind)
    (sticky : s.firstError.isSome → t.firstError.isSome)
    (fewer : ∀ clause : Clause, clause.populated t = true → clause.populated s = true)
    (source : t.source = s.source) (sourceAlias : t.sourceAlias = s.sourceAlias) :
    t.Compatible := by
  refine ⟨?_, ?_, ?_⟩
  · intro current typed clause checked notSource populated
    exact before.accepted current (kind ▸ typed) clause checked notSource (fewer clause populated)
  · rw [kind, source, sourceAlias]
    exact before.aliased
  · intro current typed writes
    rw [source]
    exact (before.table current (kind ▸ typed) writes).imp_right fun ⟨absent, failed⟩ =>
      ⟨absent, sticky failed⟩

theorem record (before : s.Compatible) (error? : Option Error) : (s.record error?).Compatible := by
  refine before.ofUnfilled rfl isSome_or_of_isSome (fun clause populated => ?_) rfl rfl
  cases clause <;> exact populated

theorem ifAccepts {change : Statement → Statement} (before : s.Compatible)
    (fills : Fills gate s (change s)) : (s.ifAccepts gate change).Compatible := by
  unfold Statement.ifAccepts
  split
  next untyped =>
    exact before.ofFills fills fun kind typed => by
      rw [untyped] at typed
      cases typed
  next current typed =>
    split
    next accepts =>
      refine before.ofFills fills fun kind typed' => ?_
      rw [typed] at typed'
      cases typed'
      exact accepts
    · exact before.record _

end Compatible

/-- A verb is accepted by a statement that has it, and by one without a verb whose clauses all go
with it. -/
theorem verbError?_eq_none_iff {kind : Kind} :
    s.verbError? kind = none ↔ s.kind = some kind ∨ (s.kind = none ∧
      ∀ clause ∈ Clause.checked, clause.populated s = true → clause.accepts kind = true) := by
  unfold verbError?
  cases typed : s.kind with
  | some current => by_cases same : current = kind <;> simp [same]
  | none => simp [List.find?_eq_none]

/-- The verb itself keeps what the clauses need; the table of a written statement is set next. -/
theorem accepted_of_verbError?_eq_none {kind : Kind} (before : s.Compatible)
    (allowed : s.verbError? kind = none) :
    ∀ clause ∈ Clause.checked, clause ≠ .source → clause.populated s = true →
      clause.accepts kind = true := by
  intro clause checked notSource populated
  rcases verbError?_eq_none_iff.mp allowed with typed | ⟨_, goes⟩
  · exact before.accepted kind typed clause checked notSource populated
  · exact goes clause checked populated

theorem compatible_select {change : Statement → Statement} (before : s.Compatible)
    (fills : ∀ t, Fills .selectList t (change t)) : (s.become .select change).Compatible := by
  unfold become
  split
  · exact before.record _
  next allowed =>
    have typed : Compatible { s with kind := some .select } := by
      refine ⟨?_, ?_, ?_⟩
      · intro current typed clause checked notSource populated
        cases typed
        refine accepted_of_verbError?_eq_none before allowed clause checked notSource ?_
        cases clause <;> exact populated
      · exact fun named => ⟨(before.aliased named).1, .inr rfl⟩
      · intro current typed writes
        cases typed
        exact absurd rfl writes
    apply typed.ofFills (fills _)
    rintro kind ⟨⟩
    rfl

section WritingVerb

variable {kind : Kind}

/-- A statement that takes a writing verb and is not of its kind yet has no source. -/
theorem source_eq_none_of_verb (writes : kind ≠ .select)
    (goes : ∀ clause ∈ Clause.checked, clause.populated s = true → clause.accepts kind = true) :
    s.source = none := by
  cases held : s.source with
  | none => rfl
  | some operand =>
    have goesWith := goes .source (by decide) (by rw [Clause.populated, held]; rfl)
    exact absurd (by simpa [Clause.accepts] using goesWith) writes

/-- An aliased source is a FROM source, so a statement with one takes no writing verb. -/
theorem sourceAlias_eq_none_of_verb (writes : kind ≠ .select) (before : s.Compatible)
    (allowed : s.verbError? kind = none) : s.sourceAlias = none := by
  cases named : s.sourceAlias with
  | none => rfl
  | some name =>
    obtain ⟨hasSource, readable⟩ := before.aliased (by rw [named]; rfl)
    rcases verbError?_eq_none_iff.mp allowed with typed | ⟨_, goes⟩
    · rcases readable with untyped | selects
      · rw [typed] at untyped
        cases untyped
      · rw [typed] at selects
        exact absurd (Option.some.inj selects) writes
    · rw [source_eq_none_of_verb writes goes] at hasSource
      cases hasSource

/-- What the invariant asks of a statement that writes rows. -/
theorem Compatible.ofWriting (typed : t.kind = some kind) (unaliased : t.sourceAlias = none)
    (goes : ∀ clause ∈ Clause.checked, clause ≠ .source → clause.populated t = true →
      clause.accepts kind = true)
    (table : (∃ table, t.source = some (.sql table) ∧ Text.isBlank table = false) ∨
      (t.source = none ∧ t.firstError.isSome)) : t.Compatible := by
  constructor
  · intro current same
    rw [typed] at same
    cases same
    exact goes
  · intro named
    rw [unaliased] at named
    cases named
  · intro _ _ _
    exact table

theorem compatible_aimAt {table : String} (writes : kind ≠ .select) (before : s.Compatible) :
    (s.aimAt kind table).Compatible := by
  unfold aimAt become
  split
  · exact before.record _
  next allowed =>
    have accepted := accepted_of_verbError?_eq_none before allowed
    have unaliased := sourceAlias_eq_none_of_verb writes before allowed
    split
    · refine .ofWriting rfl unaliased ?_ ?_
      · intro clause checked notSource populated
        apply accepted clause checked notSource
        cases clause <;> exact populated
      · have failed {e : Error} :
            ({ s with kind := some kind }.fail e).firstError.isSome := by simp [fail]
        rcases verbError?_eq_none_iff.mp allowed with typed | ⟨_, goes⟩
        · exact (before.table kind typed writes).imp_right fun ⟨absent, _⟩ => ⟨absent, failed⟩
        · exact .inr ⟨source_eq_none_of_verb writes goes, failed⟩
    next visible =>
      refine .ofWriting rfl unaliased ?_ (.inl ⟨table, rfl, Bool.eq_false_iff.mpr visible⟩)
      intro clause checked notSource populated
      apply accepted clause checked notSource
      cases clause with
      | source => exact absurd rfl notSource
      | _ => exact populated

end WritingVerb

theorem fills_extendSelectList (kept items : List Operand) :
    Fills .selectList s (s.extendSelectList kept items) := by
  refine ⟨rfl, isSome_or_of_isSome, ?_, .inl ⟨rfl, rfl⟩⟩
  intro clause _ _ populated
  cases clause with
  | selectList => exact .inr fun _ h => h
  | _ => exact .inl populated

theorem compatible_readFrom {source : Operand} (before : s.Compatible) :
    (s.readFrom source).Compatible := by
  apply before.ifAccepts
  dsimp only
  split
  · exact .record s _
  · refine ⟨rfl, isSome_or_of_isSome, ?_, .inr ⟨rfl, fun _ => rfl⟩⟩
    intro clause _ notSource populated
    cases clause with
    | source => exact absurd rfl notSource
    | _ => exact .inl populated

theorem compatible_readFromAs {source : Operand} {name : String} (before : s.Compatible) :
    (s.readFromAs source name).Compatible := by
  apply before.ifAccepts
  cases source with
  | sql text =>
    refine ⟨rfl, fun h => h, ?_, .inr ⟨rfl, fun _ => rfl⟩⟩
    intro clause _ notSource populated
    cases clause with
    | source => exact absurd rfl notSource
    | _ => exact .inl populated
  | nested child =>
    dsimp only
    split
    · refine ⟨rfl, isSome_or_of_isSome, ?_, .inr ⟨rfl, fun named => by cases named⟩⟩
      intro clause _ _ populated
      cases clause <;> exact .inl populated
    · refine ⟨rfl, isSome_or_of_isSome, ?_, .inr ⟨rfl, fun named => by cases named⟩⟩
      intro clause _ notSource populated
      cases clause with
      | source => exact absurd rfl notSource
      | _ => exact .inl populated

theorem compatible_join {form : JoinForm} {target : Operand} {condition : Option Operand}
    (before : s.Compatible) : (s.join form target condition).Compatible := by
  apply before.ifAccepts
  dsimp only
  split
  · exact .record s _
  · refine .trans (.record s (target.refusal? "JOIN")) ?_
    split
    · exact .trans (.record _ _) (.record _ _)
    · refine ⟨rfl, isSome_or_of_isSome, ?_, .inl ⟨rfl, rfl⟩⟩
      intro clause _ _ populated
      cases clause with
      | join => exact .inr fun _ h => h
      | _ => exact .inl populated

theorem compatible_union {keepDuplicates : Bool} {member : Statement} (before : s.Compatible) :
    (s.union keepDuplicates member).Compatible := by
  apply before.ifAccepts
  split
  · exact .record s _
  · refine ⟨rfl, isSome_or_of_isSome, ?_, .inl ⟨rfl, rfl⟩⟩
    intro clause _ _ populated
    cases clause with
    | union => exact .inr fun _ h => h
    | _ => exact .inl populated
  · exact .record s _

theorem compatible_withCte {name : String} {columns : Option (List String)} {recursive : Bool}
    {body : Statement} (before : s.Compatible) :
    (s.withCte name columns recursive body).Compatible := by
  unfold withCte
  split
  · exact before.record _
  split
  · exact before.record _
  split
  · exact before.record _
  · refine before.ofUnfilled rfl isSome_or_of_isSome (fun clause populated => ?_) rfl rfl
    cases clause <;> exact populated

theorem fills_setConditionsOn (restriction : Restriction) (group : ConditionGroup) :
    Fills restriction.clause s (s.setConditionsOn restriction group) := by
  cases restriction with
  | rows =>
    refine ⟨rfl, fun h => h, ?_, .inl ⟨rfl, rfl⟩⟩
    intro clause _ _ populated
    cases clause with
    | filter => exact .inr fun _ h => h
    | _ => exact .inl populated
  | groups =>
    refine ⟨rfl, fun h => h, ?_, .inl ⟨rfl, rfl⟩⟩
    intro clause _ _ populated
    cases clause with
    | groupFilter => exact .inr fun _ h => h
    | _ => exact .inl populated

theorem fills_pushCondition (restriction : Restriction) (connector : Connector)
    (modifier : Option Modifier) (body : Operand) :
    Fills restriction.clause s (s.pushCondition restriction connector modifier body) := by
  unfold pushCondition
  split
  · split
    · exact .refl s
    · exact .record s _
  · exact .trans (fills_setConditionsOn restriction _) (.record _ _)

theorem compatible_restrict {restriction : Restriction} {placement : Placement}
    {modifier : Option Modifier} {body : Operand} (before : s.Compatible) :
    (s.restrict restriction placement modifier body).Compatible := by
  apply before.ifAccepts
  cases placement with
  | replacing =>
    exact .trans (fills_setConditionsOn restriction []) (fills_pushCondition restriction _ _ _)
  | joinedBy connector => exact fills_pushCondition restriction connector modifier body

theorem compatible_restrictAll {restriction : Restriction} {bodies : List Operand}
    (before : s.Compatible) : (s.restrictAll restriction bodies).Compatible := by
  refine before.ifAccepts (.trans (fills_setConditionsOn restriction []) (.foldl ?_ bodies _))
  intro t body
  exact fills_pushCondition restriction .and none body

theorem compatible_restrictByExistence {placement : Placement} {negated : Bool} {child : Statement}
    (before : s.Compatible) : (s.restrictByExistence placement negated child).Compatible := by
  unfold restrictByExistence
  split
  · exact before.ifAccepts (.record s _)
  · exact compatible_restrict before

theorem fills_payload (payload : Option Payload) :
    Fills .payload s { s with payload := payload } := by
  refine ⟨rfl, fun h => h, ?_, .inl ⟨rfl, rfl⟩⟩
  intro clause checked _ populated
  cases clause with
  | payload => exact .inr fun _ h => h
  | insertedRows => exact absurd checked (by decide)
  | _ => exact .inl populated

theorem fills_putValue (column : String) (value : Operand) :
    Fills .payload s (s.putValue column value) := by
  unfold putValue
  dsimp only
  split
  · exact .record s _
  · refine .trans (.record s (value.refusal? "VALUES")) ?_
    split
    · exact fills_payload _
    · exact fills_payload _
    · exact .record _ _

theorem compatible_valuesList {added : List Operand} (before : s.Compatible) :
    (s.valuesList added).Compatible := by
  have extended (kept : List Operand) : Fills .payload s (s.extendValues kept added) :=
    .trans (.record s _) (fills_payload _)
  apply before.ifAccepts
  split
  · exact extended []
  · exact extended _
  · exact .record s _

theorem compatible_valuesFrom {child : Statement} (before : s.Compatible) :
    (s.valuesFrom child).Compatible := by
  apply before.ifAccepts
  split
  · exact .record s _
  · split
    · exact .record s _
    · refine ⟨rfl, isSome_or_of_isSome, ?_, .inl ⟨rfl, rfl⟩⟩
      intro clause checked _ populated
      cases clause with
      | payload =>
        refine .inr fun kind inserts => ?_
        cases kind <;> simp_all [Clause.accepts]
      | insertedRows => exact absurd checked (by decide)
      | _ => exact .inl populated
  · exact .record s _

theorem compatible_apply (before : s.Compatible) (c : Call) : (s.apply c).Compatible := by
  cases c with
  | select items => exact compatible_select before fun t => fills_extendSelectList [] items
  | addSelect items =>
    exact compatible_select before fun t => fills_extendSelectList t.selectList items
  | selectDistinct flag =>
    rw [apply, selectDistinct]
    split
    · apply before.ifAccepts
      refine ⟨rfl, fun h => h, ?_, .inl ⟨rfl, rfl⟩⟩
      intro clause _ _ populated
      cases clause with
      | distinct => exact .inr fun _ h => h
      | _ => exact .inl populated
    · refine before.ofUnfilled rfl (fun h => h) (fun clause populated => ?_) rfl rfl
      cases clause with
      | distinct => cases populated
      | _ => exact populated
  | readFrom source => exact compatible_readFrom before
  | readFromAs source name => exact compatible_readFromAs before
  | join form target condition => exact compatible_join before
  | union keepDuplicates member => exact compatible_union before
  | withCte name columns recursive body => exact compatible_withCte before
  | aliasAs name =>
    refine before.ofUnfilled rfl (fun h => h) (fun clause populated => ?_) rfl rfl
    cases clause <;> exact populated
  | restrict restriction placement negated body => exact compatible_restrict before
  | restrictAll restriction bodies => exact compatible_restrictAll before
  | restrictByExistence placement negated child => exact compatible_restrictByExistence before
  | insertInto table => exact compatible_aimAt (by decide) before
  | updateTable table => exact compatible_aimAt (by decide) before
  | deleteFrom table => exact compatible_aimAt (by decide) before
  | values pairs =>
    rw [apply]
    apply before.ifAccepts
    exact .foldl (fun t pair => fills_putValue pair.1 pair.2) pairs s
  | setColumn column value =>
    rw [apply]
    apply before.ifAccepts
    exact fills_putValue column value
  | valuesList added => exact compatible_valuesList before
  | valuesFrom child => exact compatible_valuesFrom before
  | groupBy | addGroupBy | orderBy | addOrderBy | limit | offset | paginate | columns =>
    rw [apply]
    apply before.ifAccepts
    refine ⟨rfl, fun h => h, ?_, .inl ⟨rfl, rfl⟩⟩
    intro clause _ _ populated
    -- The field that the call sets is the clause it is gated by; all others are as before.
    cases clause <;> first | exact .inl populated | exact .inr fun _ h => h

theorem compatible_start : ({} : Statement).Compatible := by
  refine ⟨?_, ?_, ?_⟩
  · rintro kind ⟨⟩
  · rintro ⟨⟩
  · rintro kind ⟨⟩

end SqlBuilder.Statement

namespace SqlBuilder

/-- Every reachable statement holds only clauses its kind accepts. -/
theorem Reachable.compatible {s : Statement} (reachable : Reachable s) : s.Compatible := by
  induction reachable with
  | start => exact Statement.compatible_start
  | call c before given ih => exact Statement.compatible_apply ih c

theorem Placed.compatible {s : Statement} (placed : Placed s) : s.Compatible := by
  cases placed with
  | mk reachable derived aliasName =>
    refine reachable.compatible.ofUnfilled rfl (fun h => h) (fun clause populated => ?_) rfl rfl
    cases clause <;> exact populated

end SqlBuilder
