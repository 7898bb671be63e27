import SqlBuilder.Proofs.RecordedErrors

/-!
# Where the verb stands

A run of calls that records no error may give the verb of the statement at any point. The verb
changes the kind, the select list and, if it writes rows, the source (`Verb.mark`); the other calls
look at none of these, apart from the gate that the kind opens, so each of them passes the verb
(`Statement.PassesVerb`). What the verb checks when it comes late, each clause call has checked at
its own gate when it came early.
-/
namespace SqlBuilder

/-- The statement with the verb in front. -/
def Verb.mark (verb : Verb) (s : Statement) : Statement :=
  { s with
    kind := some verb.kind
    selectList := (verb.items.filter (!·.lacksVerb)).map Operand.embedded
    source := (verb.table.map .sql).or s.source }

namespace Statement

variable {verb : Verb} {s : Statement} {change first second : Statement → Statement}

/-- The statement holds nothing that the verb would replace. -/
structure AwaitsVerb (verb : Verb) (s : Statement) : Prop where
  kind : s.kind = none
  selectList : s.selectList = []
  source : verb.kind ≠ .select → s.source = none

/-- The change can be made before the verb as well as after it. -/
structure PassesVerb (verb : Verb) (change : Statement → Statement) : Prop where
  awaits : ∀ s, AwaitsVerb verb s → AwaitsVerb verb (change s)
  commutes : ∀ s, AwaitsVerb verb s → change (verb.mark s) = verb.mark (change s)

namespace PassesVerb

/-- A change of other fields. -/
theorem ofFrame (frame : ∀ s, (change s).kind = s.kind ∧
      (change s).selectList = s.selectList ∧ (change s).source = s.source)
    (commutes : ∀ s, change (verb.mark s) = verb.mark (change s)) : PassesVerb verb change := by
  refine ⟨fun s awaits => ?_, fun s _ => commutes s⟩
  obtain ⟨kind, selectList, source⟩ := frame s
  constructor
  · rw [kind, awaits.kind]
  · rw [selectList, awaits.selectList]
  · rw [source]
    exact awaits.source

theorem id : PassesVerb verb fun s => s :=
  .ofFrame (fun _ => ⟨rfl, rfl, rfl⟩) fun _ => rfl

theorem record (error? : Option Error) : PassesVerb verb fun s => s.record error? :=
  .ofFrame (fun _ => ⟨rfl, rfl, rfl⟩) fun _ => rfl

theorem comp (later : PassesVerb verb second) (earlier : PassesVerb verb first) :
    PassesVerb verb fun s => second (first s) := by
  refine ⟨fun s awaits => later.awaits _ (earlier.awaits s awaits), fun s awaits => ?_⟩
  rw [earlier.commutes s awaits, later.commutes _ (earlier.awaits s awaits)]

theorem foldl {α : Type} {step : Statement → α → Statement}
    (each : ∀ item, PassesVerb verb fun s => step s item) (items : List α) :
    PassesVerb verb fun s => items.foldl step s := by
  induction items with
  | nil => exact id
  | cons item rest ih => exact ih.comp (each item)

/-- A change that goes by something the verb leaves alone. -/
theorem byCases {α : Type} (test : Statement → α) (unmarked : ∀ s, test (verb.mark s) = test s)
    (each : ∀ a, ∃ branch, PassesVerb verb branch ∧ ∀ s, test s = a → change s = branch s) :
    PassesVerb verb change := by
  refine ⟨fun s awaits => ?_, fun s awaits => ?_⟩
  · obtain ⟨branch, passes, taken⟩ := each (test s)
    rw [taken s rfl]
    exact passes.awaits s awaits
  · obtain ⟨branch, passes, taken⟩ := each (test s)
    rw [taken s rfl, taken _ (unmarked s), passes.commutes s awaits]

/-- A gate that the verb opens is open without it. -/
theorem ifAccepts {clause : Clause} (opened : clause.accepts verb.kind = true)
    (passes : PassesVerb verb change) : PassesVerb verb fun s => s.ifAccepts clause change := by
  have untyped {s : Statement} (awaits : AwaitsVerb verb s) :
      s.ifAccepts clause change = change s := by
    rw [Statement.ifAccepts, awaits.kind]
  refine ⟨fun s awaits => ?_, fun s awaits => ?_⟩
  · rw [untyped awaits]
    exact passes.awaits s awaits
  · rw [untyped awaits, ← passes.commutes s awaits, Statement.ifAccepts]
    exact if_pos opened

end PassesVerb

/-- Only a SELECT has a source that is not the table of its verb. -/
theorem passesVerb_source (tableless : verb.table = none) (selects : verb.kind = .select)
    (source : Operand) (sourceAlias : Option String) :
    PassesVerb verb fun s => { s with source := some source, sourceAlias := sourceAlias } := by
  refine ⟨fun s awaits => ⟨awaits.kind, awaits.selectList, absurd selects⟩, fun s _ => ?_⟩
  rw [Verb.mark, Verb.mark, tableless]
  rfl

theorem passesVerb_readFrom (tableless : verb.table = none) (selects : verb.kind = .select)
    (source : Operand) : PassesVerb verb fun s => s.readFrom source := by
  apply PassesVerb.ifAccepts (by rw [selects]; rfl)
  dsimp only
  split
  · exact .record _
  · exact (passesVerb_source tableless selects source.embedded none).comp (.record _)

theorem passesVerb_readFromAs (tableless : verb.table = none) (selects : verb.kind = .select)
    (source : Operand) (name : String) :
    PassesVerb verb fun s => s.readFromAs source name := by
  apply PassesVerb.ifAccepts (by rw [selects]; rfl)
  cases source with
  | sql text => exact passesVerb_source tableless selects (.sql text) (some name)
  | nested child =>
    have unnamed : PassesVerb verb fun s => { s with sourceAlias := none } :=
      .ofFrame (fun _ => ⟨rfl, rfl, rfl⟩) fun _ => rfl
    dsimp only
    split
    · exact unnamed.comp (.record _)
    · exact (passesVerb_source tableless selects _ none).comp (.record _)

theorem passesVerb_join (opened : Clause.join.accepts verb.kind = true) (form : JoinForm)
    (target : Operand) (condition : Option Operand) :
    PassesVerb verb fun s => s.join form target condition := by
  apply PassesVerb.ifAccepts opened
  have added : PassesVerb verb fun s =>
      { s with joins := s.joins ++ [⟨form, target.embedded, condition⟩] } :=
    .ofFrame (fun _ => ⟨rfl, rfl, rfl⟩) fun _ => rfl
  dsimp only
  split
  · exact .record _
  · split
    · exact (PassesVerb.record _).comp ((PassesVerb.record _).comp (.record _))
    · exact added.comp ((PassesVerb.record _).comp (.record _))

theorem passesVerb_union (opened : Clause.union.accepts verb.kind = true)
    (keepDuplicates : Bool) (member : Statement) :
    PassesVerb verb fun s => s.union keepDuplicates member := by
  apply PassesVerb.ifAccepts opened
  have added : PassesVerb verb fun s =>
      { s with unionMembers := s.unionMembers ++ [⟨member, keepDuplicates⟩] } :=
    .ofFrame (fun _ => ⟨rfl, rfl, rfl⟩) fun _ => rfl
  split
  · exact .record _
  · exact added.comp (.record _)
  · exact .record _

theorem passesVerb_withCte (name : String) (columns : Option (List String)) (recursive : Bool)
    (body : Statement) : PassesVerb verb fun s => s.withCte name columns recursive body := by
  have registered : PassesVerb verb fun s => { s with
      ctes := s.ctes ++ [⟨name, columns, body⟩]
      recursive := s.recursive || recursive } :=
    .ofFrame (fun _ => ⟨rfl, rfl, rfl⟩) fun _ => rfl
  unfold withCte
  split
  · exact .record _
  refine .byCases (fun s => s.cteNames.contains name) (fun _ => rfl) fun taken => ?_
  cases taken with
  | true => exact ⟨_, .record _, fun s same => if_pos same⟩
  | false =>
    simp only [Bool.eq_false_iff]
    by_cases untyped : body.kind.isNone = true
    · exact ⟨_, .record _, fun s same => (if_neg same).trans (if_pos untyped)⟩
    · exact ⟨_, registered.comp (.record _), fun s same => (if_neg same).trans (if_neg untyped)⟩

theorem passesVerb_setConditionsOn (restriction : Restriction) (group : Statement → ConditionGroup)
    (marked : ∀ s, group (verb.mark s) = group s) :
    PassesVerb verb fun s => s.setConditionsOn restriction (group s) := by
  cases restriction with
  | rows =>
    refine .ofFrame (fun _ => ⟨rfl, rfl, rfl⟩) fun s => ?_
    rw [marked]
    rfl
  | groups =>
    refine .ofFrame (fun _ => ⟨rfl, rfl, rfl⟩) fun s => ?_
    rw [marked]
    rfl

theorem passesVerb_pushCondition (restriction : Restriction) (connector : Connector)
    (modifier : Option Modifier) (body : Operand) :
    PassesVerb verb fun s => s.pushCondition restriction connector modifier body := by
  unfold pushCondition
  split
  · split
    · exact .id
    · exact .record _
  · refine (PassesVerb.record _).comp (passesVerb_setConditionsOn restriction _ fun s => ?_)
    cases restriction <;> rfl

theorem passesVerb_restrict {restriction : Restriction}
    (opened : restriction.clause.accepts verb.kind = true) (placement : Placement)
    (modifier : Option Modifier) (body : Operand) :
    PassesVerb verb fun s => s.restrict restriction placement modifier body := by
  apply PassesVerb.ifAccepts opened
  cases placement with
  | replacing =>
    exact (passesVerb_pushCondition restriction _ modifier body).comp
      (passesVerb_setConditionsOn restriction (fun _ => []) fun _ => rfl)
  | joinedBy connector => exact passesVerb_pushCondition restriction connector modifier body

theorem passesVerb_restrictAll {restriction : Restriction}
    (opened : restriction.clause.accepts verb.kind = true) (bodies : List Operand) :
    PassesVerb verb fun s => s.restrictAll restriction bodies := by
  apply PassesVerb.ifAccepts opened
  have pushed : PassesVerb verb fun s =>
      bodies.foldl (fun s body => s.pushCondition restriction .and none body) s :=
    .foldl (fun body => passesVerb_pushCondition restriction .and none body) bodies
  exact pushed.comp (passesVerb_setConditionsOn restriction (fun _ => []) fun _ => rfl)

theorem passesVerb_restrictByExistence (opened : Clause.filter.accepts verb.kind = true)
    (placement : Placement) (negated : Bool) (child : Statement) :
    PassesVerb verb fun s => s.restrictByExistence placement negated child := by
  unfold restrictByExistence
  split
  · exact .ifAccepts opened (.record _)
  · have gate : Restriction.rows.clause.accepts verb.kind = true := opened
    exact passesVerb_restrict gate placement _ (.nested child)

theorem passesVerb_setPayload (payload : Option Payload) :
    PassesVerb verb fun s => { s with payload := payload } :=
  .ofFrame (fun _ => ⟨rfl, rfl, rfl⟩) fun _ => rfl

theorem passesVerb_putValue (column : String) (value : Operand) :
    PassesVerb verb fun s => s.putValue column value := by
  unfold putValue
  dsimp only
  split
  · exact .record _
  refine .byCases payload (fun _ => rfl) fun held => ?_
  rcases held with _ | values | pairs | rows
  · exact ⟨_, (passesVerb_setPayload _).comp (.record _),
      fun s same => by rw [payload_record, same]⟩
  · exact ⟨_, (PassesVerb.record _).comp (.record _),
      fun s same => by rw [payload_record, same]; rfl⟩
  · exact ⟨_, (passesVerb_setPayload _).comp (.record _),
      fun s same => by rw [payload_record, same]⟩
  · exact ⟨_, (PassesVerb.record _).comp (.record _),
      fun s same => by rw [payload_record, same]; rfl⟩

theorem passesVerb_valuesList (opened : Clause.payload.accepts verb.kind = true)
    (added : List Operand) : PassesVerb verb fun s => s.valuesList added := by
  have extended (kept : List Operand) : PassesVerb verb fun s => s.extendValues kept added :=
    (passesVerb_setPayload _).comp (.record _)
  apply PassesVerb.ifAccepts opened
  refine .byCases payload (fun _ => rfl) fun held => ?_
  rcases held with _ | values | pairs | rows
  · exact ⟨_, extended [], fun s same => by rw [same]⟩
  · exact ⟨_, extended values, fun s same => by rw [same]⟩
  · exact ⟨_, .record _, fun s same => by rw [same]; rfl⟩
  · exact ⟨_, .record _, fun s same => by rw [same]; rfl⟩

theorem passesVerb_valuesFrom (opened : Clause.insertedRows.accepts verb.kind = true)
    (child : Statement) : PassesVerb verb fun s => s.valuesFrom child := by
  apply PassesVerb.ifAccepts opened
  split
  · exact .record _
  · refine .byCases (fun s => s.payload.any (!·.isEmpty)) (fun _ => rfl) fun filled => ?_
    cases filled with
    | true => exact ⟨_, .record _, fun s same => if_pos same⟩
    | false =>
      exact ⟨_, (passesVerb_setPayload _).comp (.record _),
        fun s same => if_neg (Bool.eq_false_iff.mp same)⟩
  · exact .record _

/-- A call without a verb can be made before the verb, if the verb opens its gate. -/
theorem passesVerb_apply {c : Call} (tableless : verb.kind = .select → verb.table = none)
    (clause : c.verb? = none)
    (opened : ∀ gate, c.gate? = some gate → gate.accepts verb.kind = true) :
    PassesVerb verb fun s => s.apply c := by
  cases c with
  | select | addSelect | insertInto | updateTable | deleteFrom => cases clause
  | selectDistinct flag =>
    cases flag with
    | false => exact .ofFrame (fun _ => ⟨rfl, rfl, rfl⟩) fun _ => rfl
    | true =>
      apply PassesVerb.ifAccepts (opened .distinct rfl)
      exact .ofFrame (fun _ => ⟨rfl, rfl, rfl⟩) fun _ => rfl
  | readFrom source =>
    have selects : verb.kind = .select := by simpa [Clause.accepts] using opened .source rfl
    exact passesVerb_readFrom (tableless selects) selects source
  | readFromAs source name =>
    have selects : verb.kind = .select := by simpa [Clause.accepts] using opened .source rfl
    exact passesVerb_readFromAs (tableless selects) selects source name
  | join form target condition => exact passesVerb_join (opened .join rfl) form target condition
  | union keepDuplicates member => exact passesVerb_union (opened .union rfl) keepDuplicates member
  | withCte name columns recursive body => exact passesVerb_withCte name columns recursive body
  | restrict restriction placement negated body =>
    exact passesVerb_restrict (opened _ rfl) placement _ body
  | restrictAll restriction bodies => exact passesVerb_restrictAll (opened _ rfl) bodies
  | restrictByExistence placement negated child =>
    exact passesVerb_restrictByExistence (opened .filter rfl) placement negated child
  | values pairs =>
    apply PassesVerb.ifAccepts (opened .payload rfl)
    exact .foldl (fun pair => passesVerb_putValue pair.1 pair.2) pairs
  | setColumn column value =>
    exact .ifAccepts (opened .payload rfl) (passesVerb_putValue column value)
  | valuesList added => exact passesVerb_valuesList (opened .payload rfl) added
  | valuesFrom child => exact passesVerb_valuesFrom (opened .insertedRows rfl) child
  | aliasAs name => exact .ofFrame (fun _ => ⟨rfl, rfl, rfl⟩) fun _ => rfl
  | groupBy | addGroupBy | orderBy | addOrderBy | limit | offset | paginate | columns =>
    apply PassesVerb.ifAccepts (opened _ rfl)
    exact .ofFrame (fun _ => ⟨rfl, rfl, rfl⟩) fun _ => rfl

/-! ### Runs -/

theorem firstError_of_run {calls : List Call} (clean : (s.run calls).firstError = none) :
    s.firstError = none := by
  induction calls generalizing s with
  | nil => exact clean
  | cons c rest ih =>
    have next : (s.apply c).firstError = none := ih clean
    rw [s.records_apply c] at next
    exact (Option.or_eq_none_iff.mp next).1

theorem error?_of_apply {c : Call} (clean : (s.apply c).firstError = none) : c.error? s = none := by
  rw [s.records_apply c] at clean
  exact (Option.or_eq_none_iff.mp clean).2

/-- A call that records no error has its gate open. -/
theorem gate_of_apply {c : Call} {kind : Kind} (typed : s.kind = some kind)
    (clean : (s.apply c).firstError = none) (gate : Clause) (guarded : c.gate? = some gate) :
    gate.accepts kind = true := by
  have unbarred := (Option.or_eq_none_iff.mp (error?_of_apply clean)).1
  have passed := (Option.or_eq_none_iff.mp (Option.or_eq_none_iff.mp unbarred).2).1
  rw [guarded, Option.bind_some, gateError?, typed, Option.bind_some] at passed
  by_cases accepts : gate.accepts kind = true
  · exact accepts
  · rw [if_neg accepts] at passed
    cases passed

theorem Compatible.run (compatible : s.Compatible) (calls : List Call) :
    (s.run calls).Compatible := by
  induction calls generalizing s with
  | nil => exact compatible
  | cons c rest ih => exact ih (compatible_apply compatible c)

/-- Clause calls that record no error behind the verb lead to the same statement before it. -/
theorem run_mark {calls : List Call} (tableless : verb.kind = .select → verb.table = none)
    (clauses : ∀ c ∈ calls, c.verb? = none) (awaits : AwaitsVerb verb s)
    (clean : ((verb.mark s).run calls).firstError = none) :
    AwaitsVerb verb (s.run calls) ∧ (verb.mark s).run calls = verb.mark (s.run calls) := by
  induction calls generalizing s with
  | nil => exact ⟨awaits, rfl⟩
  | cons c rest ih =>
    obtain ⟨clause, later⟩ := List.forall_mem_cons.mp clauses
    rw [run_cons] at clean
    -- The gate is known to be open because the call records no error behind the verb.
    have passes := passesVerb_apply tableless clause (gate_of_apply rfl (firstError_of_run clean))
    rw [passes.commutes s awaits] at clean
    obtain ⟨awaits', same⟩ := ih later (passes.awaits s awaits) clean
    refine ⟨awaits', ?_⟩
    rw [run_cons, run_cons, passes.commutes s awaits, same]

/-- A statement that would be compatible behind the verb takes the verb. -/
theorem AwaitsVerb.verbError?_eq_none (awaits : AwaitsVerb verb s)
    (compatible : (verb.mark s).Compatible) : s.verbError? verb.kind = none := by
  refine verbError?_eq_none_iff.mpr (.inr ⟨awaits.kind, fun clause checked populated => ?_⟩)
  cases clause with
  | selectList => simp [Clause.populated, awaits.selectList] at populated
  | source =>
    -- The source behind a verb that writes rows is its table, so it says nothing of the one before.
    by_cases selects : verb.kind = .select
    · simp [Clause.accepts, selects]
    · simp [Clause.populated, awaits.source selects] at populated
  | _ => exact compatible.accepted verb.kind rfl _ checked (by decide) populated

/-- A verb call asks for nothing of the statement but that it can take the verb. -/
theorem error?_eq_of_verb? {c : Call} (s : Statement) (isVerb : c.verb? = some verb) :
    c.error? s = (s.verbError? verb.kind).or
      (verb.tableError?.or (c.offers.findSome? (c.objection? {}))) := by
  cases c with
  | select | addSelect | insertInto | updateTable | deleteFrom =>
    cases isVerb
    simp [Call.error?, Call.barrier?, Option.or_assoc]
  | _ => cases isVerb

theorem extendSelectList_eq_of_sound {items : List Operand}
    (sound : items.findSome? (Place.objection? .selectList "SELECT list" none) = none)
    (kept : List Operand) : s.extendSelectList kept items = { s with
      selectList := kept ++ (items.filter (!·.lacksVerb)).map Operand.embedded } := by
  rw [objection?_none_eq_refusal? rfl (by decide)] at sound
  rw [extendSelectList, sound, record_none]

theorem AwaitsVerb.aimAt_eq_mark {kind : Kind} {table : String}
    (awaits : AwaitsVerb { kind := kind, table := some table } s)
    (accepted : s.verbError? kind = none)
    (visible : Verb.tableError? { kind := kind, table := some table } = none) :
    s.aimAt kind table = Verb.mark { kind := kind, table := some table } s := by
  have filled : ¬ Text.isBlank table = true := by simpa [Verb.tableError?] using visible
  rw [aimAt, become_eq_of_verbError? accepted, if_neg filled]
  simp [Verb.mark, awaits.selectList]

/-- A verb call that records no error puts the verb in front of the statement. -/
theorem AwaitsVerb.apply_eq_mark {c : Call} (awaits : AwaitsVerb verb s)
    (isVerb : c.verb? = some verb) (clean : c.error? s = none) : s.apply c = verb.mark s := by
  rw [error?_eq_of_verb? s isVerb] at clean
  obtain ⟨accepted, rest⟩ := Option.or_eq_none_iff.mp clean
  obtain ⟨visible, sound⟩ := Option.or_eq_none_iff.mp rest
  cases c with
  | select items =>
    cases isVerb
    rw [apply, select, become_eq_of_verbError? accepted,
      extendSelectList_eq_of_sound (by simpa using sound)]
    rfl
  | addSelect items =>
    cases isVerb
    rw [apply, addSelect, become_eq_of_verbError? accepted,
      extendSelectList_eq_of_sound (by simpa using sound), awaits.selectList]
    rfl
  | insertInto table | updateTable table | deleteFrom table =>
    cases isVerb
    exact awaits.aimAt_eq_mark accepted visible
  | _ => cases isVerb

theorem awaitsVerb_start (verb : Verb) : AwaitsVerb verb {} :=
  ⟨rfl, rfl, fun _ => rfl⟩

/-- The verb may be given at any point of a run that records no error with the verb in front: the
run records no error and builds the same statement. Only the calls in front of the new point must
be without a verb. -/
theorem run_verb_anywhere {c : Call} {before after : List Call} (isVerb : c.verb?.isSome)
    (clauses : ∀ d ∈ before, Call.verb? d = none)
    (clean : (({} : Statement).run (c :: (before ++ after))).firstError = none) :
    (({} : Statement).run (before ++ c :: after)).firstError = none ∧
      ({} : Statement).run (before ++ c :: after) =
        ({} : Statement).run (c :: (before ++ after)) := by
  obtain ⟨verb, given⟩ := Option.isSome_iff_exists.mp isVerb
  have tableless : verb.kind = .select → verb.table = none := by
    cases c <;> cases given <;> simp
  rw [run_cons, run_append] at clean
  have cleanBefore := firstError_of_run clean
  have unerring : c.error? {} = none := error?_of_apply (firstError_of_run cleanBefore)
  have early : ({} : Statement).apply c = verb.mark {} :=
    (awaitsVerb_start verb).apply_eq_mark given unerring
  rw [early] at cleanBefore
  obtain ⟨awaits, passed⟩ := run_mark tableless clauses (awaitsVerb_start verb) cleanBefore
  -- What the late verb checks holds because the early run was gated and built the same clauses.
  have compatible : (verb.mark (({} : Statement).run before)).Compatible := by
    rw [← passed, ← early]
    exact (compatible_apply compatible_start c).run before
  have late : (({} : Statement).run before).apply c = verb.mark (({} : Statement).run before) := by
    apply awaits.apply_eq_mark given
    rw [error?_eq_of_verb? _ given] at unerring ⊢
    rw [awaits.verbError?_eq_none compatible, Option.none_or]
    exact (Option.or_eq_none_iff.mp unerring).2
  have same : ({} : Statement).run (before ++ c :: after) =
      ({} : Statement).run (c :: (before ++ after)) := by
    rw [run_append, run_cons, run_cons, run_append, late, early, passed]
  refine ⟨?_, same⟩
  rw [same, run_cons, run_append]
  exact clean

/-- A SELECT whose verb comes behind its derived table, its condition and its WITH clause. -/
theorem run_verb_anywhere_lateSelect :
    (({} : Statement).run ([.readFromAs (.nested readsTable) "t", .withCte "n" none true readsTable,
        .restrict .rows .replacing true (.sql "a = 1")] ++
          .select [.sql "a"] :: [.offset 2])).firstError = none ∧
      ({} : Statement).run ([.readFromAs (.nested readsTable) "t",
          .withCte "n" none true readsTable, .restrict .rows .replacing true (.sql "a = 1")] ++
            .select [.sql "a"] :: [.offset 2]) =
        ({} : Statement).run (.select [.sql "a"] :: ([.readFromAs (.nested readsTable) "t",
          .withCte "n" none true readsTable, .restrict .rows .replacing true (.sql "a = 1")] ++
            [.offset 2])) := by
  refine run_verb_anywhere rfl ?_ rfl
  simp

end Statement
end SqlBuilder
