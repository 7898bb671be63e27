import SqlBuilder.Proofs.Nesting
import SqlBuilder.Statement.Call

/-!
# What a call stores

`Statement.TakesFrom` says once what a call may do to the operands of a statement: it stores none
but those it is given, only where `Place.Admits` them and as `Place.StoredAs` says, and it keeps
every error, its own and that of the operands it stores. `Statement.apply_takesFrom` is the one case
analysis over the calls; what runs of calls preserve is derived from it.
-/
namespace SqlBuilder

def Restriction.place : Restriction → Place
  | rows => .filter
  | groups => .groupFilter

/-- The operands that a call is given for a place. -/
def Call.operandsAt : Call → Place → List Operand
  | .select items, .selectList => items
  | .addSelect items, .selectList => items
  | .readFrom source, .source => [source]
  | .readFromAs source _, .source => [source]
  | .join _ target _, .joinTarget => [target]
  | .join _ _ condition, .joinCondition => condition.toList
  | .union _ member, .unionMember => [.nested member]
  | .withCte _ _ _ body, .cteBody => [.nested body]
  | .restrict restriction _ _ body, place => if place = restriction.place then [body] else []
  | .restrictAll restriction bodies, place => if place = restriction.place then bodies else []
  | .restrictByExistence _ _ child, .filter => [.nested child]
  | .insertInto table, .source => [.sql table]
  | .updateTable table, .source => [.sql table]
  | .deleteFrom table, .source => [.sql table]
  | .values pairs, .value => pairs.map (·.2)
  | .setColumn _ value, .value => [value]
  | .valuesList added, .value => added
  | .valuesFrom child, .insertedRows => [.nested child]
  | _, _ => []

/-- What may be stored at a place. -/
def Place.Admits : Place → Operand → Prop
  | joinCondition, operand => operand.statement?.any Statement.isEmpty = false
  | filter, operand => operand.isEmpty = false
  | groupFilter, operand => operand.isEmpty = false
  | insertedRows, operand => ∃ t, operand = .nested t ∧ t.kind = some .select
  | unionMember, operand => ∃ t, operand = .nested t ∧ t.kind = some .select
  | _, operand => operand.lacksVerb = false

/-- How a given operand is stored at a place: text as it is, a statement with the marks of the
place. -/
inductive Place.StoredAs (place : Place) : Operand → Operand → Prop where
  | sql (text : String) : StoredAs place (.sql text) (.sql text)
  | nested (t : Statement) (aliasName : Option String) :
      StoredAs place (.nested t)
        (.nested { t with derived := t.derived || place.derives, aliasName := aliasName })

namespace Place.StoredAs

variable {place : Place}

theorem embedded (derives : place.derives = true) (operand : Operand) :
    place.StoredAs operand operand.embedded := by
  cases operand with
  | sql text => exact .sql text
  | nested t =>
    have marked : place.StoredAs (.nested t)
        (.nested { t with derived := t.derived || place.derives, aliasName := t.aliasName }) :=
      .nested t t.aliasName
    rw [derives, Bool.or_true] at marked
    exact marked

theorem unchanged (plain : place.derives = false) (operand : Operand) :
    place.StoredAs operand operand := by
  cases operand with
  | sql text => exact .sql text
  | nested t =>
    have marked : place.StoredAs (.nested t)
        (.nested { t with derived := t.derived || place.derives, aliasName := t.aliasName }) :=
      .nested t t.aliasName
    rw [plain, Bool.or_false] at marked
    cases t
    exact marked

end Place.StoredAs

namespace Statement

section Record

variable (s : Statement) (error? : Option Error)

@[simp] theorem operandsAt_record (place : Place) :
    (s.record error?).operandsAt place = s.operandsAt place := by
  cases place <;> rfl

@[simp] theorem firstError_record : (s.record error?).firstError = s.firstError.or error? := rfl

@[simp] theorem payload_record : (s.record error?).payload = s.payload := rfl

end Record

/-- What a call that is given certain operands may do to a statement. -/
structure TakesFrom (given : Place → List Operand) (s s' : Statement) : Prop where
  sticky : ∀ e, s.firstError = some e → s'.firstError = some e
  derived : s'.derived = s.derived
  stored : ∀ place, ∀ operand ∈ s'.operandsAt place, operand ∈ s.operandsAt place ∨
    ∃ offered ∈ given place, place.Admits offered ∧ place.StoredAs offered operand ∧
      (offered.error?.isSome → s'.firstError.isSome)

variable {given : Place → List Operand} {s t u : Statement}

theorem sticky_record (error? : Option Error) :
    ∀ e, s.firstError = some e → (s.record error?).firstError = some e := by
  intro e known
  rw [firstError_record, known]
  rfl

namespace TakesFrom

/-- A call that stores nothing new. -/
theorem ofSubset (sticky : ∀ e, s.firstError = some e → t.firstError = some e)
    (derived : t.derived = s.derived)
    (operands : ∀ place, t.operandsAt place ⊆ s.operandsAt place) : TakesFrom given s t :=
  ⟨sticky, derived, fun place _ stored => .inl (operands place stored)⟩

/-- A call that stores operands at one place only. -/
theorem ofPlace (place : Place) (sticky : ∀ e, s.firstError = some e → t.firstError = some e)
    (derived : t.derived = s.derived)
    (frame : ∀ other, other ≠ place → t.operandsAt other ⊆ s.operandsAt other)
    (stored : ∀ operand ∈ t.operandsAt place, operand ∈ s.operandsAt place ∨
      ∃ offered ∈ given place, place.Admits offered ∧ place.StoredAs offered operand ∧
        (offered.error?.isSome → t.firstError.isSome)) : TakesFrom given s t := by
  refine ⟨sticky, derived, fun other operand found => ?_⟩
  by_cases same : other = place
  · subst same
    exact stored operand found
  · exact .inl (frame other same found)

theorem refl (s : Statement) : TakesFrom given s s :=
  ofSubset (fun _ h => h) rfl fun _ => List.Subset.refl _

theorem trans (first : TakesFrom given s t) (second : TakesFrom given t u) :
    TakesFrom given s u := by
  refine ⟨fun e h => second.sticky e (first.sticky e h), second.derived.trans first.derived, ?_⟩
  intro place operand stored
  rcases second.stored place operand stored with earlier | added
  · rcases first.stored place operand earlier with earliest | ⟨offered, inGiven, admitted, as, kept⟩
    · exact .inl earliest
    · refine .inr ⟨offered, inGiven, admitted, as, fun broken => ?_⟩
      obtain ⟨e, recorded⟩ := Option.isSome_iff_exists.mp (kept broken)
      rw [second.sticky e recorded]
      rfl
  · exact .inr added

theorem record (s : Statement) (error? : Option Error) : TakesFrom given s (s.record error?) := by
  refine ofSubset (sticky_record error?) rfl fun place => ?_
  rw [operandsAt_record]
  exact List.Subset.refl _

theorem ifAccepts {clause : Clause} {change : Statement → Statement}
    (applied : TakesFrom given s (change s)) : TakesFrom given s (s.ifAccepts clause change) :=
  ifAccepts_preserves (fun e => record s (some e)) applied

theorem become {kind : Kind} {change : Statement → Statement}
    (applied : ∀ t, TakesFrom given t (change t)) : TakesFrom given s (s.become kind change) := by
  have typed : TakesFrom given s { s with kind := some kind } :=
    ofSubset (fun _ h => h) rfl fun place => by cases place <;> exact List.Subset.refl _
  exact become_preserves (fun e => record s (some e)) (typed.trans (applied _))

theorem foldl {α : Type} {step : Statement → α → Statement} {items : List α}
    (each : ∀ item ∈ items, ∀ t, TakesFrom given t (step t item)) (s : Statement) :
    TakesFrom given s (items.foldl step s) := by
  induction items generalizing s with
  | nil => exact refl s
  | cons item rest ih =>
    have first := each item List.mem_cons_self s
    exact first.trans (ih (fun later member => each later (List.mem_cons_of_mem item member)) _)

end TakesFrom

theorem isSome_firstError_record {error? : Option Error} (recorded : error?.isSome) :
    (s.record error?).firstError.isSome := by
  rw [firstError_record, Option.isSome_or, recorded, Bool.or_true]

theorem isSome_refusal {context : String} {operand : Operand} (broken : operand.error?.isSome) :
    (operand.refusal? context).isSome := by
  rw [Operand.refusal?, Option.isSome_or, broken, Bool.true_or]

/-- An error of any of the operands is recorded. -/
theorem isSome_findSome?_refusal {context : String} {operands : List Operand} {operand : Operand}
    (member : operand ∈ operands) (broken : operand.error?.isSome) :
    (operands.findSome? (Operand.refusal? context)).isSome := by
  rw [List.findSome?_isSome_iff]
  exact ⟨operand, member, isSome_refusal broken⟩

theorem extendSelectList_takesFrom {kept items : List Operand} (old : kept ⊆ s.selectList)
    (offered : items ⊆ given .selectList) : TakesFrom given s (s.extendSelectList kept items) := by
  refine .ofPlace .selectList (sticky_record _) rfl ?_ ?_
  · intro other different
    cases other <;> simp_all [operandsAt, extendSelectList, record]
  · intro operand stored
    rcases List.mem_append.mp stored with before | added
    · exact .inl (old before)
    · obtain ⟨item, kept, rfl⟩ := List.mem_map.mp added
      obtain ⟨member, hasVerb⟩ := List.mem_filter.mp kept
      refine .inr ⟨item, offered member, ?_, .embedded rfl item, fun broken => ?_⟩
      · simpa [Place.Admits] using hasVerb
      · exact isSome_firstError_record (isSome_findSome?_refusal member broken)

theorem readFrom_takesFrom {source : Operand} (offered : source ∈ given .source) :
    TakesFrom given s (s.readFrom source) := by
  refine .ifAccepts ?_
  dsimp only
  split
  · exact .record s _
  next hasVerb =>
    refine .ofPlace .source (sticky_record _) rfl ?_ ?_
    · intro other different
      cases other <;> simp_all [operandsAt, record]
    · intro operand stored
      obtain rfl : operand = source.embedded := by simpa [operandsAt] using stored
      refine .inr ⟨source, offered, ?_, .embedded rfl source, fun broken => ?_⟩
      · simpa [Place.Admits] using hasVerb
      · exact isSome_firstError_record (isSome_refusal broken)

theorem readFromAs_takesFrom {source : Operand} {name : String} (offered : source ∈ given .source) :
    TakesFrom given s (s.readFromAs source name) := by
  refine .ifAccepts ?_
  cases source with
  | sql text =>
    refine .ofPlace .source (fun _ h => h) rfl ?_ ?_
    · intro other different
      cases other <;> simp_all [operandsAt]
    · intro operand stored
      obtain rfl : operand = .sql text := by simpa [operandsAt] using stored
      exact .inr ⟨.sql text, offered, rfl, .sql text, fun broken => by cases broken⟩
  | nested child =>
    dsimp only
    split
    · refine .ofSubset (sticky_record _) rfl fun place => ?_
      cases place <;> simp [operandsAt, record]
    next hasVerb =>
      refine .ofPlace .source (sticky_record _) rfl ?_ ?_
      · intro other different
        cases other <;> simp_all [operandsAt, record]
      · intro operand stored
        obtain rfl : operand = .nested { child with derived := true, aliasName := some name } := by
          simpa [operandsAt] using stored
        have marked : Place.source.StoredAs (.nested child) (.nested { child with
            derived := child.derived || Place.source.derives, aliasName := some name }) :=
          .nested child (some name)
        rw [Place.derives, Bool.or_true] at marked
        refine .inr ⟨.nested child, offered, ?_, marked, fun broken => ?_⟩
        · exact Bool.eq_false_iff.mpr hasVerb
        · exact isSome_firstError_record (isSome_refusal broken)

theorem join_takesFrom {form : JoinForm} {target : Operand} {condition : Option Operand}
    (offeredTarget : target ∈ given .joinTarget)
    (offeredCondition : condition.toList ⊆ given .joinCondition) :
    TakesFrom given s (s.join form target condition) := by
  refine .ifAccepts ?_
  dsimp only
  split
  · exact .record s _
  next hasVerb =>
    refine .trans (.record s (target.refusal? "JOIN")) ?_
    have targetError : target.error?.isSome →
        (s.record (target.refusal? "JOIN")).firstError.isSome := fun broken =>
      isSome_firstError_record (isSome_refusal broken)
    generalize s.record (target.refusal? "JOIN") = t at targetError ⊢
    split
    · exact .trans (.record t _) (.record _ _)
    next filled =>
      refine ⟨sticky_record _, rfl, ?_⟩
      intro place operand stored
      cases place with
      | joinTarget =>
        rw [operandsAt, List.map_append, List.mem_append] at stored
        rcases stored with before | added
        · exact .inl before
        · obtain rfl : operand = target.embedded := by simpa using added
          refine .inr ⟨target, offeredTarget, ?_, .embedded rfl target, fun broken => ?_⟩
          · simpa [Place.Admits] using hasVerb
          · rw [firstError_record, Option.isSome_or, targetError broken, Bool.true_or]
      | joinCondition =>
        rw [operandsAt, List.filterMap_append, List.mem_append] at stored
        rcases stored with before | added
        · exact .inl before
        · obtain rfl : condition = some operand := by simpa using added
          refine .inr ⟨operand, offeredCondition (by simp), ?_, .unchanged rfl operand, ?_⟩
          · simpa [Place.Admits] using filled
          · exact fun broken => isSome_firstError_record broken
      | _ => exact .inl stored

theorem union_takesFrom {keepDuplicates : Bool} {member : Statement}
    (offered : .nested member ∈ given .unionMember) :
    TakesFrom given s (s.union keepDuplicates member) := by
  refine .ifAccepts ?_
  split
  · exact .record s _
  next selects =>
    refine .ofPlace .unionMember (sticky_record _) rfl ?_ ?_
    · intro other different
      cases other <;> simp_all [operandsAt, record]
    · intro operand stored
      rw [operandsAt, List.map_append, List.mem_append] at stored
      rcases stored with before | added
      · exact .inl before
      · obtain rfl : operand = .nested member := by simpa using added
        exact .inr ⟨.nested member, offered, ⟨member, rfl, selects⟩, .unchanged rfl _,
          fun broken => isSome_firstError_record broken⟩
  · exact .record s _

theorem withCte_takesFrom {name : String} {columns : Option (List String)} {recursive : Bool}
    {body : Statement} (offered : .nested body ∈ given .cteBody) :
    TakesFrom given s (s.withCte name columns recursive body) := by
  unfold withCte
  split
  · exact .record s _
  split
  · exact .record s _
  split
  · exact .record s _
  next hasVerb =>
    refine .ofPlace .cteBody (sticky_record _) rfl ?_ ?_
    · intro other different
      cases other <;> simp_all [operandsAt, record]
    · intro operand stored
      rw [operandsAt, List.map_append, List.mem_append] at stored
      rcases stored with before | added
      · exact .inl before
      · obtain rfl : operand = .nested body := by simpa using added
        refine .inr ⟨.nested body, offered, ?_, .unchanged rfl _,
          fun broken => isSome_firstError_record broken⟩
        exact Bool.eq_false_iff.mpr hasVerb

theorem setConditionsOn_nil_takesFrom (restriction : Restriction) :
    TakesFrom given s (s.setConditionsOn restriction []) := by
  cases restriction with
  | rows =>
    refine .ofSubset (fun _ h => h) rfl fun place => ?_
    cases place <;> simp [operandsAt, setConditionsOn]
  | groups =>
    refine .ofSubset (fun _ h => h) rfl fun place => ?_
    cases place <;> simp [operandsAt, setConditionsOn]

theorem pushCondition_takesFrom {restriction : Restriction} {connector : Connector}
    {modifier : Option Modifier} {body : Operand} (offered : body ∈ given restriction.place) :
    TakesFrom given s (s.pushCondition restriction connector modifier body) := by
  unfold pushCondition
  split
  · split
    · exact .refl s
    · exact .record s _
  next filled =>
    refine .ofPlace restriction.place ?_ ?_ ?_ ?_
    · cases restriction <;> exact sticky_record _
    · cases restriction <;> rfl
    · intro other different
      cases restriction <;> cases other <;>
        simp_all [operandsAt, record, setConditionsOn, Restriction.place]
    · intro operand stored
      have found : operand ∈ s.operandsAt restriction.place ∨ operand = body := by
        cases restriction <;>
          simpa [operandsAt, record, setConditionsOn, conditionsOn, Restriction.place,
            ConditionGroup.push] using stored
      rcases found with before | rfl
      · exact .inl before
      · refine .inr ⟨operand, offered, ?_, .unchanged ?_ operand,
          fun broken => isSome_firstError_record broken⟩
        · cases restriction <;> simpa [Place.Admits, Restriction.place] using filled
        · cases restriction <;> rfl

theorem restrict_takesFrom {restriction : Restriction} {placement : Placement}
    {modifier : Option Modifier} {body : Operand} (offered : body ∈ given restriction.place) :
    TakesFrom given s (s.restrict restriction placement modifier body) := by
  refine .ifAccepts ?_
  cases placement with
  | replacing =>
    exact .trans (setConditionsOn_nil_takesFrom restriction) (pushCondition_takesFrom offered)
  | joinedBy connector => exact pushCondition_takesFrom offered

theorem restrictAll_takesFrom {restriction : Restriction} {bodies : List Operand}
    (offered : bodies ⊆ given restriction.place) :
    TakesFrom given s (s.restrictAll restriction bodies) := by
  refine .ifAccepts (.trans (setConditionsOn_nil_takesFrom restriction) (.foldl ?_ _))
  intro body member t
  exact pushCondition_takesFrom (offered member)

theorem restrictByExistence_takesFrom {placement : Placement} {negated : Bool} {child : Statement}
    (offered : .nested child ∈ given .filter) :
    TakesFrom given s (s.restrictByExistence placement negated child) := by
  unfold restrictByExistence
  split
  · exact .ifAccepts (.record s _)
  · exact restrict_takesFrom (show _ ∈ given Restriction.rows.place from offered)

theorem aimAt_takesFrom {kind : Kind} {table : String} (offered : .sql table ∈ given .source) :
    TakesFrom given s (s.aimAt kind table) := by
  refine .become fun t => ?_
  split
  · exact .record t _
  · refine .ofPlace .source (fun _ h => h) rfl ?_ ?_
    · intro other different
      cases other <;> simp_all [operandsAt]
    · intro operand stored
      obtain rfl : operand = .sql table := by simpa [operandsAt] using stored
      exact .inr ⟨.sql table, offered, rfl, .sql table, fun broken => by cases broken⟩

theorem mem_values_assign {column : String} {value operand : Operand}
    {pairs : List (String × Operand)} (stored : operand ∈ (assign column value pairs).map (·.2)) :
    operand ∈ pairs.map (·.2) ∨ operand = value := by
  induction pairs with
  | nil => simpa [assign] using stored
  | cons pair rest ih =>
    obtain ⟨key, old⟩ := pair
    simp only [assign] at stored
    split at stored
    · rcases List.mem_cons.mp stored with rfl | later
      · exact .inr rfl
      · exact .inl (List.mem_cons_of_mem _ later)
    · rcases List.mem_cons.mp stored with rfl | later
      · exact .inl List.mem_cons_self
      · exact (ih later).imp_left (List.mem_cons_of_mem _)

theorem putValue_takesFrom {column : String} {value : Operand} (offered : value ∈ given .value) :
    TakesFrom given s (s.putValue column value) := by
  unfold putValue
  dsimp only
  split
  · exact .record s _
  next hasVerb =>
    have admitted : Place.Admits .value value := by simpa [Place.Admits] using hasVerb
    have kept : value.error?.isSome → (s.record (value.refusal? "VALUES")).firstError.isSome :=
      fun broken => isSome_firstError_record (isSome_refusal broken)
    rw [payload_record]
    split
    next empty =>
      refine .ofPlace .value (sticky_record _) rfl ?_ ?_
      · intro other different
        cases other <;> simp_all [operandsAt, record, Payload.rowSource?]
      · intro operand stored
        obtain rfl : operand = value := by simpa [operandsAt, Payload.values] using stored
        exact .inr ⟨operand, offered, admitted, .unchanged rfl _, kept⟩
    next pairs named =>
      refine .ofPlace .value (sticky_record _) rfl ?_ ?_
      · intro other different
        cases other <;> simp_all [operandsAt, record, Payload.rowSource?]
      · intro operand stored
        rcases mem_values_assign stored with before | rfl
        · left
          rw [operandsAt, named]
          exact before
        · exact .inr ⟨operand, offered, admitted, .unchanged rfl _, kept⟩
    · exact .trans (.record s _) (.record _ _)

theorem values_takesFrom {pairs : List (String × Operand)}
    (offered : pairs.map (·.2) ⊆ given .value) : TakesFrom given s (s.values pairs) := by
  refine .ifAccepts (.foldl ?_ s)
  intro pair member t
  exact putValue_takesFrom (offered (List.mem_map_of_mem member))

theorem extendValues_takesFrom {kept added : List Operand} (old : kept ⊆ s.operandsAt .value)
    (offered : added ⊆ given .value) : TakesFrom given s (s.extendValues kept added) := by
  refine .ofPlace .value (sticky_record _) rfl ?_ ?_
  · intro other different
    cases other <;> simp_all [operandsAt, record, extendValues, Payload.rowSource?]
  · intro operand stored
    rcases List.mem_append.mp stored with before | taken
    · exact .inl (old before)
    · obtain ⟨member, hasVerb⟩ := List.mem_filter.mp taken
      refine .inr ⟨operand, offered member, ?_, .unchanged rfl operand, fun broken => ?_⟩
      · simpa [Place.Admits] using hasVerb
      · exact isSome_firstError_record (isSome_findSome?_refusal member broken)

theorem valuesList_takesFrom {added : List Operand} (offered : added ⊆ given .value) :
    TakesFrom given s (s.valuesList added) := by
  refine .ifAccepts ?_
  split
  · exact extendValues_takesFrom (List.nil_subset _) offered
  next kept positional =>
    refine extendValues_takesFrom ?_ offered
    rw [operandsAt, positional]
    exact List.Subset.refl _
  · exact .record s _

theorem valuesFrom_takesFrom {child : Statement} (offered : .nested child ∈ given .insertedRows) :
    TakesFrom given s (s.valuesFrom child) := by
  refine .ifAccepts ?_
  split
  · exact .record s _
  next selects =>
    split
    · exact .record s _
    · refine .ofPlace .insertedRows (sticky_record _) rfl ?_ ?_
      · intro other different
        cases other <;> simp_all [operandsAt, record, Payload.values]
      · intro operand stored
        obtain rfl : operand = .nested child := by
          simpa [operandsAt, Payload.rowSource?] using stored
        exact .inr ⟨.nested child, offered, ⟨child, rfl, selects⟩, .unchanged rfl _,
          fun broken => isSome_firstError_record broken⟩
  · exact .record s _

/-- A call stores no operand that it is not given. -/
theorem apply_takesFrom (s : Statement) (c : Call) : TakesFrom c.operandsAt s (s.apply c) := by
  cases c with
  | select items =>
    exact .become fun t => extendSelectList_takesFrom (List.nil_subset _) (List.Subset.refl items)
  | addSelect items =>
    exact .become fun t =>
      extendSelectList_takesFrom (List.Subset.refl _) (List.Subset.refl items)
  | readFrom source => exact readFrom_takesFrom List.mem_cons_self
  | readFromAs source name => exact readFromAs_takesFrom List.mem_cons_self
  | join form target condition =>
    exact join_takesFrom List.mem_cons_self (List.Subset.refl _)
  | union keepDuplicates member => exact union_takesFrom List.mem_cons_self
  | withCte name columns recursive body => exact withCte_takesFrom List.mem_cons_self
  | restrict restriction placement negated body =>
    exact restrict_takesFrom (by simp [Call.operandsAt])
  | restrictAll restriction bodies => exact restrictAll_takesFrom (by simp [Call.operandsAt])
  | restrictByExistence placement negated child =>
    exact restrictByExistence_takesFrom List.mem_cons_self
  | insertInto table => exact aimAt_takesFrom List.mem_cons_self
  | updateTable table => exact aimAt_takesFrom List.mem_cons_self
  | deleteFrom table => exact aimAt_takesFrom List.mem_cons_self
  | values pairs => exact values_takesFrom (List.Subset.refl _)
  | setColumn column value =>
    rw [apply]
    refine .ifAccepts ?_
    exact putValue_takesFrom List.mem_cons_self
  | valuesList added => exact valuesList_takesFrom (List.Subset.refl added)
  | valuesFrom child => exact valuesFrom_takesFrom List.mem_cons_self
  | selectDistinct flag =>
    have frame (flag : Bool) : TakesFrom (Call.selectDistinct flag).operandsAt s
        { s with distinct := flag } :=
      .ofSubset (fun _ h => h) rfl fun place => by cases place <;> exact List.Subset.refl _
    rw [apply, selectDistinct]
    split
    · refine .ifAccepts ?_
      exact frame true
    · exact frame false
  | aliasAs name =>
    exact .ofSubset (fun _ h => h) rfl fun place => by cases place <;> exact List.Subset.refl _
  | groupBy | addGroupBy | orderBy | addOrderBy | limit | offset | paginate | columns =>
    rw [apply]
    refine .ifAccepts ?_
    exact .ofSubset (fun _ h => h) rfl fun place => by cases place <;> exact List.Subset.refl _

end Statement
end SqlBuilder
