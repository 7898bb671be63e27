import SqlBuilder.Proofs.AnyDepth

/-!
# The error that a call records

A call meets what speaks against it in a fixed order: its verb or clause first, then each nested
statement it is given, which may be unfit for its place and may carry an error of its own.
`Call.error?` is the first of these errors and `Statement.records_apply` the one case analysis that
finds it recorded. Whatever is wrong with a nested statement leaves an error behind
(`Reachable.no_error_lost`), but some places look at the statement before its error
(`Statement.firstError_adopted_iff`).
-/
namespace SqlBuilder

/-! ### What speaks against a call -/

/-- What a verb call gives to a statement. -/
structure Verb where
  kind : Kind
  /-- The items of a select list. -/
  items : List Operand := []
  /-- The table of a statement that writes rows. -/
  table : Option String := none

namespace Call

/-- The verb of a call. Adding to the select list makes a statement a SELECT as well. -/
@[simp] def verb? : Call → Option Verb
  | .select items => some { kind := .select, items := items }
  | .addSelect items => some { kind := .select, items := items }
  | .insertInto table => some { kind := .insert, table := some table }
  | .updateTable table => some { kind := .update, table := some table }
  | .deleteFrom table => some { kind := .delete, table := some table }
  | _ => none

/-- The clause that the kind of the statement has to accept. -/
@[simp] def gate? : Call → Option Clause
  | .selectDistinct flag => if flag then some .distinct else none
  | .readFrom _ => some .source
  | .readFromAs _ _ => some .source
  | .join _ _ _ => some .join
  | .union _ _ => some .union
  | .restrict restriction _ _ _ => some restriction.clause
  | .restrictAll restriction _ => some restriction.clause
  | .restrictByExistence _ _ _ => some .filter
  | .groupBy _ => some .grouping
  | .addGroupBy _ => some .grouping
  | .orderBy _ => some .ordering
  | .addOrderBy _ => some .ordering
  | .limit _ => some .paging
  | .offset _ => some .paging
  | .paginate _ _ => some .paging
  | .columns _ => some .columnList
  | .values _ => some .payload
  | .setColumn _ _ => some .payload
  | .valuesList _ => some .payload
  | .valuesFrom _ => some .insertedRows
  | _ => none

end Call

namespace Statement

def gateError? (s : Statement) (clause : Clause) : Option Error :=
  s.kind.bind fun kind =>
    if clause.accepts kind then none else some (.unsupportedClause clause.name kind)

/-- Why a common table expression cannot be registered under the name. -/
def nameError? (s : Statement) (name : String) : Option Error :=
  if Text.isBlank name then some .blankCteName
  else if s.cteNames.contains name then some (.duplicateCte name)
  else none

/-- The error of values that come behind a payload of another form. -/
def mixingError? (s : Statement) (fits : Payload → Bool) : Option Error :=
  if s.payload.all fits then none else some .mixedValues

end Statement

def Verb.tableError? (verb : Verb) : Option Error :=
  if verb.table.any Text.isBlank then some (.missingTable verb.kind) else none

def Payload.isNamed : Payload → Bool
  | .named _ => true
  | _ => false

def Payload.isPositional : Payload → Bool
  | .positional _ => true
  | _ => false

namespace Place

/-- The name of a place in the errors of statements that are missing there. -/
@[simp] def context : Place → String
  | selectList => "SELECT list"
  | source => "FROM"
  | joinTarget => "JOIN"
  | joinCondition => "JOIN"
  | filter => "WHERE"
  | groupFilter => "HAVING"
  | value => "VALUES"
  | insertedRows => "INSERT ... SELECT"
  | unionMember => "UNION"
  | cteBody => "WITH"

/-- The name of a place in the errors of statements that are no SELECT. -/
def role : Place → String
  | unionMember => "UNION member"
  | insertedRows => "INSERT source"
  | place => place.context

/-- What is wrong with a statement at a place, its own errors apart. Conditions must not be empty,
members and inserted rows must be a SELECT, and all others need a verb. -/
def unfit? (place : Place) (context : String) (t : Statement) : Option Error :=
  match place with
  | joinCondition | filter | groupFilter =>
      if t.isEmpty then some (.emptySubquery context) else none
  | unionMember | insertedRows =>
      match t.kind with
      | none => some (.emptySubquery context)
      | some .select => none
      | some kind => some (.unsupportedClause place.role kind)
  | _ => if t.kind.isNone then some (.emptySubquery context) else none

/-- Whether the error of a statement is asked for before the statement itself is looked at. -/
def asksErrorFirst : Place → Bool
  | selectList | source | joinTarget | joinCondition | value => true
  | _ => false

/-- The first thing that is wrong with an operand at a place, where values may also be of the wrong
form. -/
def objection? (place : Place) (context : String) (mixing? : Option Error) :
    Operand → Option Error
  | .sql _ => mixing?
  | .nested t =>
      if place.asksErrorFirst then (t.firstError.or (place.unfit? context t)).or mixing?
      else (place.unfit? context t).or (mixing?.or t.firstError)

end Place

namespace Call

/-- The error of values that do not go with those the statement has. -/
@[simp] def mixingError? (s : Statement) : Call → Option Error
  | .values _ => s.mixingError? Payload.isNamed
  | .setColumn _ _ => s.mixingError? Payload.isNamed
  | .valuesList _ => s.mixingError? Payload.isPositional
  | .valuesFrom _ => s.mixingError? Payload.isEmpty
  | _ => none

/-- What speaks against a call before its operands are looked at. -/
def barrier? (s : Statement) (c : Call) : Option Error :=
  (c.verb?.bind fun verb => (s.verbError? verb.kind).or verb.tableError?).or <|
    (c.gate?.bind s.gateError?).or <|
      match c with
      | .withCte name _ _ _ => s.nameError? name
      | .valuesList _ => c.mixingError? s
      | _ => none

/-- The operands that a call is given, each with its place, in the order they are looked at. -/
@[simp] def offers : Call → List (Place × Operand)
  | .select items => items.map (.selectList, ·)
  | .addSelect items => items.map (.selectList, ·)
  | .readFrom source => [(.source, source)]
  | .readFromAs source _ => [(.source, source)]
  | .join _ target condition => (.joinTarget, target) :: condition.toList.map (.joinCondition, ·)
  | .union _ member => [(.unionMember, .nested member)]
  | .withCte _ _ _ body => [(.cteBody, .nested body)]
  | .restrict restriction _ _ body => [(restriction.place, body)]
  | .restrictAll restriction bodies => bodies.map (restriction.place, ·)
  | .restrictByExistence _ _ child => [(.filter, .nested child)]
  | .values pairs => pairs.map fun pair => (.value, pair.2)
  | .setColumn _ value => [(.value, value)]
  | .valuesList added => added.map (.value, ·)
  | .valuesFrom child => [(.insertedRows, .nested child)]
  | _ => []

/-- Every statement that a call is given is among its offers. -/
theorem nested_mem_offers_iff {c : Call} {place : Place} {t : Statement} :
    (place, .nested t) ∈ c.offers ↔ .nested t ∈ c.operandsAt place := by
  cases c with
  | restrict restriction =>
    cases restriction <;> cases place <;> simp [operandsAt, Restriction.place]
  | restrictAll restriction =>
    cases restriction <;> cases place <;> simp [operandsAt, Restriction.place]
  | _ => cases place <;> simp [operandsAt]

@[simp] def context : Call → Place → String
  | .restrictByExistence _ _ _, _ => "EXISTS"
  | _, place => place.context

/-- What speaks against an operand of a call. -/
def objection? (s : Statement) (c : Call) (offer : Place × Operand) : Option Error :=
  offer.1.objection? (c.context offer.1) (c.mixingError? s) offer.2

@[simp] theorem findSome?_objection {s : Statement} {c : Call} (place : Place)
    (operands : List Operand) :
    (operands.map (place, ·)).findSome? (c.objection? s) =
      operands.findSome? (place.objection? (c.context place) (c.mixingError? s)) := by
  rw [List.findSome?_map]
  rfl

/-- The first error that a call meets. -/
def error? (s : Statement) (c : Call) : Option Error :=
  (c.barrier? s).or (c.offers.findSome? (c.objection? s))

end Call

/-- `Reachable.run` for a list of calls that is given: only the offers of each call are looked at,
not every place. -/
theorem Reachable.run_of_offers {s : Statement} {calls : List Call} (before : Reachable s)
    (given : ∀ c ∈ calls, ∀ offer ∈ c.offers, ∀ t, offer.2 = .nested t → Reachable t) :
    Reachable (s.run calls) := by
  refine before.run fun c inRun place t stored => ?_
  exact given c inRun (place, .nested t) (Call.nested_mem_offers_iff.mpr stored) t rfl

/-! ### Gates and verbs -/

namespace Statement

variable {s : Statement} {clause : Clause} {kind : Kind} {change : Statement → Statement}
  {e : Error}

theorem ifAccepts_eq_of_open (opened : s.gateError? clause = none) :
    s.ifAccepts clause change = change s := by
  unfold gateError? at opened
  unfold ifAccepts
  cases typed : s.kind with
  | none => rfl
  | some kind =>
    by_cases accepts : clause.accepts kind = true
    · exact if_pos accepts
    · simp [typed, accepts] at opened

theorem ifAccepts_eq_fail (excluded : s.gateError? clause = some e) :
    s.ifAccepts clause change = s.fail e := by
  unfold gateError? at excluded
  unfold ifAccepts
  cases typed : s.kind with
  | none => simp [typed] at excluded
  | some kind =>
    by_cases accepts : clause.accepts kind = true
    · simp [typed, accepts] at excluded
    · simp_all

theorem become_eq_of_verbError? (accepted : s.verbError? kind = none)
    (change : Statement → Statement) :
    s.become kind change = change { s with kind := some kind } := by
  rw [become, accepted]

theorem become_eq_fail (conflict : s.verbError? kind = some e) :
    s.become kind change = s.fail e := by
  rw [become, conflict]

end Statement

/-! ### What is recorded -/

theorem findSome?_cons_eq_or {α β : Type} (f : α → Option β) (item : α) (rest : List α) :
    (item :: rest).findSome? f = (f item).or (rest.findSome? f) := by
  rw [List.findSome?_cons]
  cases f item <;> rfl

namespace Statement

/-- The second statement has the error in addition, unless the first one had an error already. -/
def Records (error? : Option Error) (s s' : Statement) : Prop :=
  s'.firstError = s.firstError.or error?

variable {s t u : Statement} {first? second? : Option Error}

namespace Records

theorem unchanged (same : t.firstError = s.firstError) : Records none s t := by
  rw [Records, same, Option.or_none]

theorem record (s : Statement) (error? : Option Error) : Records error? s (s.record error?) := rfl

theorem trans (first : Records first? s t) (second : Records second? t u) :
    Records (first?.or second?) s u := by
  rw [Records, second, first, Option.or_assoc]

theorem congr (records : Records first? s t) (same : first? = second?) : Records second? s t :=
  same ▸ records

theorem ifAccepts {clause : Clause} {change : Statement → Statement}
    (applied : Records first? s (change s)) :
    Records ((s.gateError? clause).or first?) s (s.ifAccepts clause change) := by
  cases gate : s.gateError? clause with
  | none =>
    rw [ifAccepts_eq_of_open gate]
    exact applied
  | some e =>
    rw [ifAccepts_eq_fail gate]
    exact record s _

theorem become {kind : Kind} {change : Statement → Statement}
    (applied : ∀ t, Records first? t (change t)) :
    Records ((s.verbError? kind).or first?) s (s.become kind change) := by
  cases conflict : s.verbError? kind with
  | none =>
    rw [become_eq_of_verbError? conflict]
    exact applied { s with kind := some kind }
  | some e =>
    rw [become_eq_fail conflict]
    exact record s _

/-- Of a list only the first error is recorded. -/
theorem foldl {α : Type} {step : Statement → α → Statement} {found : α → Option Error}
    {items : List α} (kept : Statement → Prop) (start : kept s)
    (each : ∀ t item, kept t → Records (found item) t (step t item) ∧ kept (step t item)) :
    Records (items.findSome? found) s (items.foldl step s) := by
  induction items generalizing s with
  | nil => exact unchanged rfl
  | cons item rest ih =>
    obtain ⟨recorded, next⟩ := each s item start
    exact (recorded.trans (ih next)).congr (findSome?_cons_eq_or found item rest).symm

end Records

/-- Where a missing verb is all that can be wrong with a statement, and its error comes first. -/
theorem objection?_eq_refusal? {place : Place} (first : place.asksErrorFirst = true)
    (needsVerb : place ≠ .joinCondition) (context : String) (mixing? : Option Error)
    (operand : Operand) :
    place.objection? context mixing? operand = (operand.refusal? context).or mixing? := by
  cases operand with
  | sql text => rfl
  | nested t =>
    rw [Place.objection?, if_pos first]
    cases place with
    | joinCondition => exact absurd rfl needsVerb
    | selectList | source | joinTarget | value => rfl
    | _ => cases first

theorem objection?_none_eq_refusal? {place : Place} (first : place.asksErrorFirst = true)
    (needsVerb : place ≠ .joinCondition) (context : String) :
    place.objection? context none = Operand.refusal? context := by
  funext operand
  rw [objection?_eq_refusal? first needsVerb, Option.or_none]

/-- Nothing is recorded after the refusal of an operand without a verb. -/
theorem refusal?_or_of_lacksVerb {operand : Operand} (lacks : operand.lacksVerb = true)
    (context : String) (later? : Option Error) :
    (operand.refusal? context).or later? = operand.refusal? context := by
  apply Option.or_of_isSome
  rw [Operand.refusal?, if_pos lacks, Option.isSome_or, Option.isSome_some, Bool.or_true]

theorem records_extendSelectList (kept items : List Operand) :
    Records (items.findSome? (Place.objection? .selectList "SELECT list" none)) s
      (s.extendSelectList kept items) := by
  rw [objection?_none_eq_refusal? rfl (by decide)]
  exact .record s _

theorem records_readFrom (source : Operand) :
    Records ((s.gateError? .source).or (Place.objection? .source "FROM" none source)) s
      (s.readFrom source) := by
  refine .ifAccepts ?_
  rw [objection?_none_eq_refusal? rfl (by decide)]
  dsimp only
  split
  · exact .record s _
  · exact .record s _

theorem records_readFromAs (source : Operand) (name : String) :
    Records ((s.gateError? .source).or (Place.objection? .source "FROM" none source)) s
      (s.readFromAs source name) := by
  refine .ifAccepts ?_
  rw [objection?_none_eq_refusal? rfl (by decide)]
  cases source with
  | sql text => exact .unchanged rfl
  | nested child =>
    dsimp only
    split
    · exact .record s _
    · exact .record s _

theorem records_join (form : JoinForm) (target : Operand) (condition : Option Operand) :
    Records ((s.gateError? .join).or ((Place.objection? .joinTarget "JOIN" none target).or
      (condition.toList.findSome? (Place.objection? .joinCondition "JOIN" none)))) s
      (s.join form target condition) := by
  refine .ifAccepts ?_
  rw [objection?_none_eq_refusal? rfl (by decide)]
  dsimp only
  split
  next lacks =>
    rw [refusal?_or_of_lacksVerb lacks]
    exact .record s _
  · refine .trans (.record s _) ?_
    rcases condition with _ | text | t
    · exact .unchanged (Option.or_none)
    · exact .unchanged (Option.or_none)
    · have found : Place.objection? .joinCondition "JOIN" none (.nested t) =
          t.firstError.or (if t.isEmpty then some (.emptySubquery "JOIN") else none) :=
        Option.or_none
      rw [Option.toList_some, List.findSome?_singleton, found]
      refine .trans (.record _ _) ?_
      by_cases empty : t.isEmpty = true
      · simp only [Option.any_some, Operand.statement?, empty, if_true]
        exact .record _ _
      · simp only [Option.any_some, Operand.statement?, empty]
        exact .unchanged rfl

theorem records_union (keepDuplicates : Bool) (member : Statement) :
    Records ((s.gateError? .union).or
      (Place.objection? .unionMember "UNION" none (.nested member))) s
      (s.union keepDuplicates member) := by
  refine .ifAccepts ?_
  have found : Place.objection? .unionMember "UNION" none (.nested member) =
      (Place.unfit? .unionMember "UNION" member).or member.firstError := rfl
  rw [found, Place.unfit?]
  rcases member.kind with _ | kind
  · exact .record s _
  · cases kind <;> exact .record s _

theorem records_withCte (name : String) (columns : Option (List String)) (recursive : Bool)
    (body : Statement) :
    Records ((s.nameError? name).or (Place.objection? .cteBody "WITH" none (.nested body))) s
      (s.withCte name columns recursive body) := by
  have found : Place.objection? .cteBody "WITH" none (.nested body) =
      (if body.kind.isNone then some (.emptySubquery "WITH") else none).or body.firstError := rfl
  rw [found, nameError?, withCte]
  split
  · exact .record s _
  split
  · exact .record s _
  split
  · exact .record s _
  · exact .record s _

theorem records_setConditionsOn (restriction : Restriction) (group : ConditionGroup) :
    Records none s (s.setConditionsOn restriction group) := by
  cases restriction <;> exact .unchanged rfl

theorem records_pushCondition (restriction : Restriction) (connector : Connector)
    (modifier : Option Modifier) (body : Operand) :
    Records (restriction.place.objection? restriction.place.context none body) s
      (s.pushCondition restriction connector modifier body) := by
  unfold pushCondition
  cases body with
  | sql text =>
    split
    · exact .unchanged rfl
    · exact (records_setConditionsOn restriction _).trans (.record _ none)
  | nested t =>
    have found : restriction.place.objection? restriction.place.context none (.nested t) =
        (if t.isEmpty then some (.emptySubquery restriction.clause.name) else none).or
          t.firstError := by
      cases restriction <;> rfl
    rw [found, Operand.isEmpty]
    split
    · exact .record s _
    · exact (records_setConditionsOn restriction _).trans (.record _ _)

theorem records_restrict (restriction : Restriction) (placement : Placement)
    (modifier : Option Modifier) (body : Operand) :
    Records ((s.gateError? restriction.clause).or
      (restriction.place.objection? restriction.place.context none body)) s
      (s.restrict restriction placement modifier body) := by
  refine .ifAccepts ?_
  cases placement with
  | replacing =>
    exact (records_setConditionsOn restriction []).trans (records_pushCondition restriction _ _ _)
  | joinedBy connector => exact records_pushCondition restriction connector modifier body

theorem records_restrictAll (restriction : Restriction) (bodies : List Operand) :
    Records ((s.gateError? restriction.clause).or
      (bodies.findSome? (restriction.place.objection? restriction.place.context none))) s
      (s.restrictAll restriction bodies) := by
  refine .ifAccepts ((records_setConditionsOn restriction []).trans ?_)
  apply Records.foldl (fun _ => True) trivial
  intro t body _
  exact ⟨records_pushCondition restriction .and none body, trivial⟩

theorem records_restrictByExistence (placement : Placement) (negated : Bool) (child : Statement) :
    Records ((s.gateError? .filter).or
      (Place.objection? .filter "EXISTS" none (.nested child))) s
      (s.restrictByExistence placement negated child) := by
  unfold restrictByExistence
  have found (context : String) : Place.objection? .filter context none (.nested child) =
      (if child.isEmpty then some (.emptySubquery context) else none).or child.firstError := rfl
  rw [found]
  split
  · exact .ifAccepts (.record s _)
  next visible =>
    refine (records_restrict .rows placement _ (.nested child)).congr ?_
    rw [Restriction.place, found, if_neg visible]
    rfl

/-- The form of the payload does not change, so of several pairs each meets the same objection. -/
theorem records_putValue (column : String) (value : Operand) :
    Records (Place.objection? .value "VALUES" (s.mixingError? Payload.isNamed) value) s
        (s.putValue column value) ∧
      (s.putValue column value).mixingError? Payload.isNamed =
        s.mixingError? Payload.isNamed := by
  rw [objection?_eq_refusal? rfl (by decide)]
  unfold putValue
  dsimp only
  split
  next lacks =>
    rw [refusal?_or_of_lacksVerb lacks]
    exact ⟨.record s _, rfl⟩
  · have kept (error? : Option Error) :
        ((s.record error?).fail .mixedValues).payload = s.payload := by
      rw [fail, payload_record, payload_record]
    unfold mixingError?
    rw [payload_record]
    rcases held : s.payload with _ | values | pairs | rows
    · exact ⟨(Records.record s _).trans (.unchanged rfl), rfl⟩
    · exact ⟨(Records.record s _).trans (.record _ _), by rw [kept, held]⟩
    · exact ⟨(Records.record s _).trans (.unchanged rfl), rfl⟩
    · exact ⟨(Records.record s _).trans (.record _ _), by rw [kept, held]⟩

theorem records_values (pairs : List (String × Operand)) :
    Records ((s.gateError? .payload).or (pairs.findSome? fun pair =>
      Place.objection? .value "VALUES" (s.mixingError? Payload.isNamed) pair.2)) s
      (s.values pairs) := by
  refine .ifAccepts ?_
  -- The objections are those of the statement before the first pair.
  apply Records.foldl (fun t => t.mixingError? Payload.isNamed = s.mixingError? Payload.isNamed) rfl
  intro t pair same
  obtain ⟨recorded, kept⟩ := @records_putValue t pair.1 pair.2
  rw [same] at recorded kept
  exact ⟨recorded, kept⟩

theorem records_extendValues (kept added : List Operand) :
    Records (added.findSome? (Place.objection? .value "VALUES" none)) s
      (s.extendValues kept added) := by
  rw [objection?_none_eq_refusal? rfl (by decide)]
  exact .record s _

theorem records_valuesList (added : List Operand) :
    Records ((s.gateError? .payload).or ((s.mixingError? Payload.isPositional).or
      (added.findSome? (Place.objection? .value "VALUES" (s.mixingError? Payload.isPositional))))) s
      (s.valuesList added) := by
  refine .ifAccepts ?_
  unfold mixingError?
  rcases s.payload with _ | values | pairs | rows
  · exact records_extendValues [] added
  · exact records_extendValues values added
  · exact .record s _
  · exact .record s _

theorem records_valuesFrom (child : Statement) :
    Records ((s.gateError? .insertedRows).or (Place.objection? .insertedRows "INSERT ... SELECT"
      (s.mixingError? Payload.isEmpty) (.nested child))) s (s.valuesFrom child) := by
  refine .ifAccepts ?_
  have found : Place.objection? .insertedRows "INSERT ... SELECT"
      (s.mixingError? Payload.isEmpty) (.nested child) =
        (Place.unfit? .insertedRows "INSERT ... SELECT" child).or
          ((s.mixingError? Payload.isEmpty).or child.firstError) := rfl
  rw [found, Place.unfit?]
  rcases child.kind with _ | kind
  · exact .record s _
  cases kind with
  | select =>
    -- Only here the error of the child is asked for, and mixed values still go before it.
    unfold mixingError?
    rcases s.payload with _ | payload
    · exact .record s _
    · by_cases empty : payload.isEmpty = true
      · simp only [Option.any_some, Option.all_some, empty]
        exact .record s _
      · simp only [Option.any_some, Option.all_some, empty]
        exact .record s _
  | insert | update | delete => exact .record s _

theorem records_aimAt (kind : Kind) (table : String) :
    Records ((s.verbError? kind).or
      (if Text.isBlank table then some (.missingTable kind) else none)) s (s.aimAt kind table) := by
  refine .become fun t => ?_
  split
  · exact .record t _
  · exact .unchanged rfl

/-- Every call records the first error it meets. -/
theorem records_apply (s : Statement) (c : Call) : Records (c.error? s) s (s.apply c) := by
  cases c with
  | select items =>
    have recorded : Records _ s (s.select items) :=
      .become fun t => records_extendSelectList [] items
    exact recorded.congr (by simp [Call.error?, Call.barrier?, Verb.tableError?])
  | addSelect items =>
    have recorded : Records _ s (s.addSelect items) :=
      .become fun t => records_extendSelectList t.selectList items
    exact recorded.congr (by simp [Call.error?, Call.barrier?, Verb.tableError?])
  | readFrom source =>
    exact (records_readFrom source).congr (by simp [Call.error?, Call.barrier?, Call.objection?])
  | readFromAs source name =>
    exact (records_readFromAs source name).congr
      (by simp [Call.error?, Call.barrier?, Call.objection?])
  | join form target condition =>
    exact (records_join form target condition).congr
      (by simp [Call.error?, Call.barrier?, Call.objection?, findSome?_cons_eq_or])
  | union keepDuplicates member =>
    exact (records_union keepDuplicates member).congr
      (by simp [Call.error?, Call.barrier?, Call.objection?])
  | withCte name columns recursive body =>
    exact (records_withCte name columns recursive body).congr
      (by simp [Call.error?, Call.barrier?, Call.objection?])
  | restrict restriction placement negated body =>
    exact (records_restrict restriction placement _ body).congr
      (by simp [Call.error?, Call.barrier?, Call.objection?])
  | restrictAll restriction bodies =>
    exact (records_restrictAll restriction bodies).congr (by simp [Call.error?, Call.barrier?])
  | restrictByExistence placement negated child =>
    exact (records_restrictByExistence placement negated child).congr
      (by simp [Call.error?, Call.barrier?, Call.objection?])
  | insertInto table =>
    exact (records_aimAt .insert table).congr
      (by simp [Call.error?, Call.barrier?, Verb.tableError?])
  | updateTable table =>
    exact (records_aimAt .update table).congr
      (by simp [Call.error?, Call.barrier?, Verb.tableError?])
  | deleteFrom table =>
    exact (records_aimAt .delete table).congr
      (by simp [Call.error?, Call.barrier?, Verb.tableError?])
  | values pairs =>
    have listed : (pairs.map fun pair => (Place.value, pair.2)).findSome?
        ((Call.values pairs).objection? s) = pairs.findSome? fun pair =>
          Place.objection? .value "VALUES" (s.mixingError? Payload.isNamed) pair.2 := by
      rw [List.findSome?_map]
      rfl
    exact (records_values pairs).congr (by simp [Call.error?, Call.barrier?, listed])
  | setColumn column value =>
    have recorded : Records _ s (s.setColumn column value) :=
      .ifAccepts (records_putValue column value).1
    exact recorded.congr (by simp [Call.error?, Call.barrier?, Call.objection?])
  | valuesList added =>
    exact (records_valuesList added).congr (by simp [Call.error?, Call.barrier?, Option.or_assoc])
  | valuesFrom child =>
    exact (records_valuesFrom child).congr (by simp [Call.error?, Call.barrier?, Call.objection?])
  | selectDistinct flag =>
    cases flag with
    | false => exact .unchanged rfl
    | true =>
      have recorded : Records _ s (s.ifAccepts .distinct fun s => { s with distinct := true }) :=
        .ifAccepts (.unchanged rfl)
      exact recorded.congr (by simp [Call.error?, Call.barrier?])
  | aliasAs name => exact .unchanged rfl
  | groupBy | addGroupBy | orderBy | addOrderBy | limit | offset | paginate | columns =>
    rw [apply]
    refine (Records.ifAccepts (.unchanged ?_)).congr ?_
    · rfl
    · simp [Call.error?, Call.barrier?]

end Statement

/-! ### Errors of nested statements -/

theorem Place.isSome_objection?_of_broken {place : Place} {context : String}
    {mixing? : Option Error} {t : Statement} (broken : t.firstError.isSome) :
    (place.objection? context mixing? (.nested t)).isSome := by
  rw [Place.objection?]
  split
  · simp [broken]
  · simp [broken]

/-- No error of a nested statement is lost: it leaves an error on the statement it is handed to,
even where that statement refuses it, so nothing broken is stored in a statement without an error,
at whatever depth. -/
theorem Reachable.no_error_lost {s : Statement} (reachable : Reachable s) :
    (∀ c place t, .nested t ∈ Call.operandsAt c place → t.firstError.isSome →
        (s.apply c).firstError.isSome) ∧
      (s.firstError = none → ∀ t : Statement, t.Within s → t.firstError = none) := by
  constructor
  · intro c place t given broken
    have found : (c.error? s).isSome := by
      have objected : (c.offers.findSome? (c.objection? s)).isSome := by
        rw [List.findSome?_isSome_iff]
        exact ⟨(place, .nested t), Call.nested_mem_offers_iff.mpr given,
          Place.isSome_objection?_of_broken broken⟩
      rw [Call.error?, Option.isSome_or, objected, Bool.or_true]
    rw [s.records_apply c, Option.isSome_or, found, Bool.or_true]
  · exact fun clean t inside => reachable.placed.firstError_of_within clean inside

/-- `LIMIT 1` excludes the verb that follows, so the statement has an error and no verb. -/
def verblessMember : Statement := ({} : Statement).run [.limit 1, .insertInto "t"]

theorem reachable_verblessMember : Reachable verblessMember := by
  apply Reachable.start.run_of_offers
  simp

def readsTable : Statement :=
  ({} : Statement).run [.select [.sql "a"], .readFrom (.sql "x")]

theorem reachable_readsTable : Reachable readsTable := by
  apply Reachable.start.run_of_offers
  simp

theorem no_error_lost_refusedCall :
    Reachable readsTable ∧ verblessMember.firstError.isSome ∧
      (readsTable.apply (.valuesFrom verblessMember)).firstError.isSome := by
  refine ⟨reachable_readsTable, rfl, ?_⟩
  exact reachable_readsTable.no_error_lost.1 _ .insertedRows verblessMember List.mem_cons_self rfl

section FirstBroken

variable {s t : Statement} {c : Call} {place : Place} {e : Error}
  {earlier later : List (Place × Operand)}

/-- What is recorded if the first thing wrong with a call is a statement with an error. -/
theorem Statement.firstError_apply_of_broken (clean : s.firstError = none)
    (admitted : c.barrier? s = none) (unmixed : c.mixingError? s = none)
    (given : c.offers = earlier ++ (place, .nested t) :: later)
    (sound : ∀ offer ∈ earlier, c.objection? s offer = none) (broken : t.firstError = some e) :
    (s.apply c).firstError = some (if place.asksErrorFirst then e
      else (place.unfit? (c.context place) t).getD e) := by
  have objected : c.objection? s (place, .nested t) = some (if place.asksErrorFirst then e
      else (place.unfit? (c.context place) t).getD e) := by
    rw [Call.objection?, Place.objection?, unmixed, broken]
    split
    · rfl
    · cases place.unfit? (c.context place) t <;> rfl
  have passed : earlier.findSome? (c.objection? s) = none := List.findSome?_eq_none_iff.mpr sound
  have found : c.error? s = c.objection? s (place, .nested t) := by
    rw [Call.error?, admitted, given, List.findSome?_append, passed, findSome?_cons_eq_or,
      objected]
    rfl
  rw [s.records_apply c, clean, found, objected]
  rfl

/-- A call that nothing else speaks against takes over the error of a nested statement exactly if
the place asks for errors first or finds the statement fit, up to a statement whose own error is
the one it is refused with. -/
theorem Statement.firstError_adopted_iff (clean : s.firstError = none)
    (admitted : c.barrier? s = none) (unmixed : c.mixingError? s = none)
    (given : c.offers = earlier ++ (place, .nested t) :: later)
    (sound : ∀ offer ∈ earlier, c.objection? s offer = none) (broken : t.firstError = some e) :
    (s.apply c).firstError = some e ↔ place.asksErrorFirst = true ∨
      place.unfit? (c.context place) t = none ∨
        place.unfit? (c.context place) t = some e := by
  rw [firstError_apply_of_broken clean admitted unmixed given sound broken]
  cases place.asksErrorFirst with
  | true => simp
  | false => cases place.unfit? (c.context place) t <;> simp

end FirstBroken

theorem firstError_adopted_iff_addSelect :
    readsTable.firstError = none ∧
      verblessMember.firstError = some (.unsupportedClause "LIMIT/OFFSET" .insert) ∧
        ((readsTable.apply (.addSelect [.sql "b", .nested verblessMember])).firstError =
            some (.unsupportedClause "LIMIT/OFFSET" .insert) ↔
          Place.asksErrorFirst .selectList = true ∨
            Place.unfit? .selectList "SELECT list" verblessMember = none ∨
              Place.unfit? .selectList "SELECT list" verblessMember =
                some (.unsupportedClause "LIMIT/OFFSET" .insert)) := by
  have given : (Call.addSelect [.sql "b", .nested verblessMember]).offers =
      [(.selectList, .sql "b")] ++ (.selectList, .nested verblessMember) :: [] := rfl
  have sound : ∀ offer ∈ [(Place.selectList, Operand.sql "b")],
      (Call.addSelect [.sql "b", .nested verblessMember]).objection? readsTable offer = none := by
    simp [Call.objection?, Place.objection?]
  exact ⟨rfl, rfl, Statement.firstError_adopted_iff rfl rfl rfl given sound rfl⟩

/-- A member of a UNION that has an error and, because of it, no verb: the missing verb is reported
in place of the error. -/
theorem not_firstError_adopted_verblessMember :
    ¬ ∀ s c place t e, Reachable s → s.firstError = none → Call.barrier? s c = none →
      c.mixingError? s = none → c.offers = [(place, .nested t)] → Reachable t →
        t.firstError = some e → (s.apply c).firstError = some e := by
  intro adopted
  have claimed := adopted readsTable (.union false verblessMember) .unionMember verblessMember
    (.unsupportedClause "LIMIT/OFFSET" .insert) reachable_readsTable rfl rfl rfl rfl
    reachable_verblessMember rfl
  have recorded : (readsTable.apply (.union false verblessMember)).firstError =
      some (.emptySubquery "UNION") := rfl
  rw [recorded] at claimed
  cases claimed

end SqlBuilder
