import Mathlib.Data.List.Induction
import SqlBuilder.Statement.Method
import SqlBuilder.Proofs.RefusedCalls
import SqlBuilder.Proofs.StoredShape
import SqlBuilder.Proofs.VerbPosition

/-!
# What a run leaves in a clause

Some calls start a list of a statement afresh, others add to it. A `Ledger` says of one list which
calls do either and what each of them gives; its entries for a run are those of the last call that
starts afresh and of all calls behind it. A run that records no error leaves every list with the
entries of its ledger (`Statement.run_cumulative`). That calls of other families do not touch the
list is the same for all of them (`Ledger.run`), so each list only has to say what its own calls do.
The conditions have the most methods; `Ledger.restarts_conditions_iff` names those that start
afresh, and `Ledger.adds_condition_iff` those that add, with the words each puts in front.
-/
namespace SqlBuilder

/-- The calls of a run from the last restart on, or all of them if there is none. -/
def Call.fromLast (restarts : Call → Bool) : List Call → List Call
  | [] => []
  | c :: rest => if rest.any restarts then fromLast restarts rest else c :: rest

theorem Call.fromLast_append_singleton (restarts : Call → Bool) (calls : List Call) (c : Call) :
    fromLast restarts (calls ++ [c]) =
      if restarts c then [c] else fromLast restarts calls ++ [c] := by
  induction calls with
  | nil => simp [fromLast]
  | cons first rest ih =>
    simp only [List.cons_append, fromLast, List.any_append, ih]
    by_cases restart : restarts c = true
    · simp [restart]
    · by_cases later : rest.any restarts = true <;> simp [restart, later]

theorem Call.fromLast_eq_self {restarts : Call → Bool} (never : ∀ c, restarts c = false)
    (calls : List Call) : fromLast restarts calls = calls := by
  cases calls with
  | nil => rfl
  | cons c rest => simp [fromLast, never]

/-! ### Ledgers -/

/-- What the calls of one family do to a list. -/
structure Ledger (α : Type) where
  facet : Facet
  /-- Whether the call drops what the list held before it. -/
  restarts : Call → Bool
  /-- What the call puts at the end of the list. -/
  given : Call → List α
  silent : ∀ c, c.facet ≠ facet → restarts c = false ∧ given c = []

namespace Ledger

variable {α β : Type} (ledger : Ledger α) {calls : List Call} {c : Call} {list : List α}

def entries (calls : List Call) : List α :=
  (Call.fromLast ledger.restarts calls).flatMap ledger.given

/-- The list behind one call. -/
def next (list : List α) (c : Call) : List α :=
  (if ledger.restarts c then [] else list) ++ ledger.given c

theorem entries_append_singleton :
    ledger.entries (calls ++ [c]) = ledger.next (ledger.entries calls) c := by
  rw [entries, Call.fromLast_append_singleton, next, entries]
  split <;> simp

theorem next_of_ne (other : c.facet ≠ ledger.facet) : ledger.next list c = list := by
  obtain ⟨kept, nothing⟩ := ledger.silent c other
  simp [next, kept, nothing]

variable {ledger}

theorem entries_of_never (never : ∀ c, ledger.restarts c = false) (calls : List Call) :
    ledger.entries calls = calls.flatMap ledger.given := by
  rw [entries, Call.fromLast_eq_self never]

/-- A field follows a ledger through a run if it follows it through the calls of its family. -/
theorem run {field : Statement → β} {shows : β → List α → Prop}
    (held : ∀ s : Statement, field (s.facet ledger.facet) = field s)
    (unkinded : ∀ (s : Statement) kind, field { s with kind := kind } = field s)
    (notSource : ledger.facet ≠ .source) (start : shows (field {}) [])
    (own : ∀ c ∈ calls, c.facet = ledger.facet → ∀ s, c.error? s = none →
      ∀ list, shows (field s) list → shows (field (s.apply c)) (ledger.next list c))
    (clean : (({} : Statement).run calls).firstError = none) :
    shows (field (({} : Statement).run calls)) (ledger.entries calls) := by
  induction calls using List.reverseRecOn with
  | nil => exact start
  | append_singleton calls c ih =>
    obtain ⟨earlier, last⟩ := List.forall_mem_append.mp own
    rw [Statement.run_append] at clean ⊢
    have before := ih earlier (Statement.firstError_of_run clean)
    rw [ledger.entries_append_singleton]
    by_cases family : c.facet = ledger.facet
    · exact last c List.mem_cons_self family _ (Statement.error?_of_apply clean) _ before
    · have frame : field ((({} : Statement).run calls).apply c) =
          field (({} : Statement).run calls) :=
        Statement.apply_frame held unkinded (Ne.symm family) notSource _
      rw [ledger.next_of_ne family]
      exact frame ▸ before

/-- `Ledger.run` for a field that holds the list as it is. -/
theorem run_list {field : Statement → List α}
    (held : ∀ s : Statement, field (s.facet ledger.facet) = field s)
    (unkinded : ∀ (s : Statement) kind, field { s with kind := kind } = field s)
    (notSource : ledger.facet ≠ .source) (start : field {} = [])
    (own : ∀ s c, c.facet = ledger.facet → c.error? s = none →
      field (s.apply c) = ledger.next (field s) c)
    (clean : (({} : Statement).run calls).firstError = none) :
    field (({} : Statement).run calls) = ledger.entries calls := by
  refine @run α (List α) ledger calls field (· = ·) held unkinded notSource start ?_ clean
  intro c _ family s sound list before
  rw [own s c family sound, before]

end Ledger

/-! ### Calls that meet no error -/

namespace Call

variable {s t : Statement} {c : Call} {place : Place} {operand : Operand}

theorem not_refuses_of_error? (clean : c.error? s = none) : ¬ s.Refuses c := by
  intro refused
  have met := refused.isSome_error?
  rw [clean] at met
  cases met

theorem gateError?_of_error? {gate : Clause} (clean : c.error? s = none)
    (needed : c.gate? = some gate) : s.gateError? gate = none :=
  Option.not_isSome_iff_eq_none.mp fun excluded =>
    not_refuses_of_error? clean (.clause needed excluded)

theorem unfit?_of_error? (clean : c.error? s = none) (given : (place, .nested t) ∈ c.offers) :
    place.unfit? (c.context place) t = none := by
  refine Option.not_isSome_iff_eq_none.mp fun unfit => ?_
  have met : (c.error? s).isSome :=
    isSome_error?_of_objection given (Place.isSome_objection?_of_unfit unfit)
  rw [clean] at met
  cases met

theorem lacksVerb_of_error? (clean : c.error? s = none) (given : (place, operand) ∈ c.offers)
    (typed : place ∈ [Place.selectList, .source, .joinTarget, .value, .cteBody]) :
    operand.lacksVerb = false := by
  cases operand with
  | sql text => rfl
  | nested t =>
    have fit := unfit?_of_error? clean given
    simp only [List.mem_cons, List.not_mem_nil, or_false] at typed
    rcases typed with rfl | rfl | rfl | rfl | rfl <;>
      simpa [Place.unfit?, Operand.lacksVerb, Option.isSome_iff_ne_none] using fit

end Call

/-! ### The lists of a SELECT -/

namespace Ledger

/-- Nested statements stand in the list as derived ones. -/
def selectList : Ledger Operand where
  facet := .head
  restarts
    | .select _ => true
    | _ => false
  given
    | .select items => items.map Operand.embedded
    | .addSelect items => items.map Operand.embedded
    | _ => []
  silent c other := by
    cases c <;> simp_all [Call.facet]

def grouping : Ledger String where
  facet := .grouping
  restarts
    | .groupBy _ => true
    | _ => false
  given
    | .groupBy columns => columns
    | .addGroupBy columns => columns
    | _ => []
  silent c other := by
    cases c <;> simp_all [Call.facet]

def ordering : Ledger (String × Direction) where
  facet := .ordering
  restarts
    | .orderBy _ => true
    | _ => false
  given
    | .orderBy terms => terms
    | .addOrderBy terms => terms
    | _ => []
  silent c other := by
    cases c <;> simp_all [Call.facet]

/-- Joins are only ever added. -/
def joins : Ledger Join where
  facet := .joins
  restarts _ := false
  given
    | .join form target condition => [⟨form, target.embedded, condition⟩]
    | _ => []
  silent c other := by
    cases c <;> simp_all [Call.facet]

/-- Members are only ever added. -/
def unionMembers : Ledger UnionMember where
  facet := .unions
  restarts _ := false
  given
    | .union keepDuplicates member => [⟨member, keepDuplicates⟩]
    | _ => []
  silent c other := by
    cases c <;> simp_all [Call.facet]

end Ledger

namespace Statement

variable {s : Statement} {c : Call}

/-- A verb that lists items without an error lists all of them. -/
theorem accepts_items_of_error? {items : List Operand}
    (asked : c.verb? = some { kind := .select, items := items })
    (given : c.offers = items.map (.selectList, ·)) (clean : c.error? s = none) :
    s.verbError? .select = none ∧ ∀ (t : Statement) (kept : List Operand),
      t.extendSelectList kept items =
        { t with selectList := kept ++ items.map Operand.embedded } := by
  have typed : items.filter (!·.lacksVerb) = items := by
    refine List.filter_eq_self.mpr fun item member => ?_
    have offered : (Place.selectList, item) ∈ c.offers := given ▸ List.mem_map_of_mem member
    rw [Call.lacksVerb_of_error? clean offered List.mem_cons_self, Bool.not_false]
  rw [error?_eq_of_verb? s asked, given, Call.findSome?_objection] at clean
  obtain ⟨accepted, rest⟩ := Option.or_eq_none_iff.mp clean
  have sound := (Option.or_eq_none_iff.mp rest).2
  refine ⟨accepted, fun t kept => ?_⟩
  rw [extendSelectList_eq_of_sound ?_, typed]
  cases c <;> cases asked <;> exact sound

theorem selectList_aimAt (s : Statement) (kind : Kind) (table : String) :
    (s.aimAt kind table).selectList = s.selectList := by
  refine @become_preserves (fun t => t.selectList = s.selectList) _ _ _ (fun _ => rfl) ?_
  split <;> rfl

theorem selectList_apply (family : c.facet = .head) (clean : c.error? s = none) :
    (s.apply c).selectList = Ledger.selectList.next s.selectList c := by
  cases c with
  | select items =>
    obtain ⟨accepted, listed⟩ := accepts_items_of_error? rfl rfl clean
    rw [apply, select, become_eq_of_verbError? accepted, listed]
    rfl
  | addSelect items =>
    obtain ⟨accepted, listed⟩ := accepts_items_of_error? rfl rfl clean
    rw [apply, addSelect, become_eq_of_verbError? accepted, listed]
    rfl
  | insertInto table | updateTable table | deleteFrom table =>
    exact (selectList_aimAt s _ table).trans (List.append_nil _).symm
  | restrict restriction | restrictAll restriction => cases restriction <;> cases family
  | _ => cases family

theorem groupColumns_apply (family : c.facet = .grouping) (clean : c.error? s = none) :
    (s.apply c).groupColumns = Ledger.grouping.next s.groupColumns c := by
  have opened {gate : Clause} := @Call.gateError?_of_error? s c gate clean
  cases c with
  | groupBy columns =>
    rw [apply, groupBy, ifAccepts_eq_of_open (opened rfl)]
    rfl
  | addGroupBy columns =>
    rw [apply, addGroupBy, ifAccepts_eq_of_open (opened rfl)]
    rfl
  | restrict restriction | restrictAll restriction => cases restriction <;> cases family
  | _ => cases family

theorem orderTerms_apply (family : c.facet = .ordering) (clean : c.error? s = none) :
    (s.apply c).orderTerms = Ledger.ordering.next s.orderTerms c := by
  have opened {gate : Clause} := @Call.gateError?_of_error? s c gate clean
  cases c with
  | orderBy terms =>
    rw [apply, orderBy, ifAccepts_eq_of_open (opened rfl)]
    exact (List.nil_append terms).symm
  | addOrderBy terms =>
    rw [apply, addOrderBy, ifAccepts_eq_of_open (opened rfl)]
    rfl
  | restrict restriction | restrictAll restriction => cases restriction <;> cases family
  | _ => cases family

theorem joins_apply (family : c.facet = .joins) (clean : c.error? s = none) :
    (s.apply c).joins = Ledger.joins.next s.joins c := by
  have opened {gate : Clause} := @Call.gateError?_of_error? s c gate clean
  cases c with
  | join form target condition =>
    have typed : target.lacksVerb = false :=
      Call.lacksVerb_of_error? clean List.mem_cons_self (by simp)
    have filled : (condition.any fun body => body.statement?.any isEmpty) = false := by
      rcases condition with _ | text | t
      · rfl
      · rfl
      · have fit : Place.unfit? .joinCondition _ t = none :=
          Call.unfit?_of_error? clean (List.mem_cons_of_mem _ List.mem_cons_self)
        simpa [Place.unfit?, Operand.statement?] using fit
    rw [apply, join, ifAccepts_eq_of_open (opened rfl)]
    simp only [typed, filled, Bool.false_eq_true, if_false]
    rfl
  | restrict restriction | restrictAll restriction => cases restriction <;> cases family
  | _ => cases family

theorem unionMembers_apply (family : c.facet = .unions) (clean : c.error? s = none) :
    (s.apply c).unionMembers = Ledger.unionMembers.next s.unionMembers c := by
  have opened {gate : Clause} := @Call.gateError?_of_error? s c gate clean
  cases c with
  | union keepDuplicates member =>
    have fit : Place.unfit? .unionMember _ member = none :=
      Call.unfit?_of_error? clean List.mem_cons_self
    have selects : member.kind = some .select := by
      rcases typed : member.kind with _ | kind
      · simp [Place.unfit?, typed] at fit
      · cases kind <;> simp [Place.unfit?, typed] at fit ⊢
    rw [apply, union, ifAccepts_eq_of_open (opened rfl), selects]
    rfl
  | restrict restriction | restrictAll restriction => cases restriction <;> cases family
  | _ => cases family

end Statement

/-! ### Conditions -/

theorem Restriction.eq_of_facet_eq {a b : Restriction} (same : a.facet = b.facet) : a = b := by
  cases a <;> cases b <;> simp_all [facet]

/-- Whether the operand is text that says nothing. -/
def Operand.isBlank : Operand → Bool
  | .sql text => text.isEmpty
  | .nested _ => false

/-- The conditions as a group: the first one has nothing to connect to. -/
def ConditionGroup.connected : List Condition → ConditionGroup
  | [] => []
  | first :: rest => { first with connector := none } :: rest

theorem ConditionGroup.push_connected (conditions : List Condition) (connector : Connector)
    (modifier : Option Modifier) (body : Operand) :
    (connected conditions).push connector modifier body =
      connected (conditions ++ [⟨some connector, modifier, body⟩]) := by
  cases conditions <;> rfl

/-- The conditions that a call asks for, each with the connector it is offered with. -/
def Call.asked (restriction : Restriction) : Call → List Condition
  | .restrict target placement negated body =>
      if target = restriction then
        [⟨some placement.connector, if negated then some .not else none, body⟩]
      else []
  | .restrictAll target bodies =>
      if target = restriction then bodies.map (⟨some .and, none, ·⟩) else []
  | .restrictByExistence placement negated child =>
      if restriction = .rows then
        [⟨some placement.connector, some (if negated then .notExists else .exists),
          .nested child⟩]
      else []
  | _ => []

/-- Empty text is no condition, but it starts the group afresh all the same. -/
def Ledger.conditions (restriction : Restriction) : Ledger Condition where
  facet := restriction.facet
  restarts
    | .restrict target .replacing _ _ => target = restriction
    | .restrictAll target _ => target = restriction
    | .restrictByExistence .replacing _ _ => restriction = .rows
    | _ => false
  given c := (c.asked restriction).filter (!·.body.isBlank)
  silent c other := by
    cases c with
    | restrict target placement =>
      cases placement <;> cases target <;> cases restriction <;>
        simp_all [Call.facet, Call.asked, Restriction.facet]
    | restrictAll target =>
      cases target <;> cases restriction <;> simp_all [Call.facet, Call.asked, Restriction.facet]
    | restrictByExistence placement =>
      cases placement <;> cases restriction <;>
        simp_all [Call.facet, Call.asked, Restriction.facet]
    | _ => exact ⟨rfl, rfl⟩

/-! ### Methods that replace conditions and methods that add one -/

namespace Method

/-- The methods that replace the conditions on rows or on groups. -/
inductive Replaces : Restriction → Call → Prop where
  | where_ (body : Operand) : Replaces .rows (where_ body)
  | whereNot (body : Operand) : Replaces .rows (whereNot body)
  | whereAll (bodies : List Operand) : Replaces .rows (whereAll bodies)
  | whereExists (child : Statement) : Replaces .rows (whereExists child)
  | whereNotExists (child : Statement) : Replaces .rows (whereNotExists child)
  | having (body : Operand) : Replaces .groups (having body)
  | havingNot (body : Operand) : Replaces .groups (havingNot body)
  | havingAll (bodies : List Operand) : Replaces .groups (havingAll bodies)

/-- The methods that add a condition, with the connector and the modifier it is offered with. -/
inductive Adds : Restriction → Connector → Option Modifier → Operand → Call → Prop where
  | andWhere (body : Operand) : Adds .rows .and none body (andWhere body)
  | andWhereNot (body : Operand) : Adds .rows .and (some .not) body (andWhereNot body)
  | orWhere (body : Operand) : Adds .rows .or none body (orWhere body)
  | orWhereNot (body : Operand) : Adds .rows .or (some .not) body (orWhereNot body)
  | andWhereExists (child : Statement) :
      Adds .rows .and (some .exists) (.nested child) (andWhereExists child)
  | andWhereNotExists (child : Statement) :
      Adds .rows .and (some .notExists) (.nested child) (andWhereNotExists child)
  | orWhereExists (child : Statement) :
      Adds .rows .or (some .exists) (.nested child) (orWhereExists child)
  | orWhereNotExists (child : Statement) :
      Adds .rows .or (some .notExists) (.nested child) (orWhereNotExists child)
  | andHaving (body : Operand) : Adds .groups .and none body (andHaving body)
  | andHavingNot (body : Operand) : Adds .groups .and (some .not) body (andHavingNot body)
  | orHaving (body : Operand) : Adds .groups .or none body (orHaving body)
  | orHavingNot (body : Operand) : Adds .groups .or (some .not) body (orHavingNot body)

section Families

variable (restriction : Restriction) (connector : Connector) (negated : Bool) (body : Operand)
  (child : Statement)

theorem replaces_restrict :
    Replaces restriction (.restrict restriction .replacing negated body) := by
  cases restriction <;> cases negated
  · exact .where_ body
  · exact .whereNot body
  · exact .having body
  · exact .havingNot body

theorem replaces_restrictByExistence :
    Replaces .rows (.restrictByExistence .replacing negated child) := by
  cases negated with
  | false => exact .whereExists child
  | true => exact .whereNotExists child

theorem adds_restrict :
    Adds restriction connector (if negated then some .not else none) body
      (.restrict restriction (.joinedBy connector) negated body) := by
  cases restriction <;> cases connector <;> cases negated
  · exact .andWhere body
  · exact .andWhereNot body
  · exact .orWhere body
  · exact .orWhereNot body
  · exact .andHaving body
  · exact .andHavingNot body
  · exact .orHaving body
  · exact .orHavingNot body

theorem adds_restrictByExistence :
    Adds .rows connector (some (if negated then .notExists else .exists)) (.nested child)
      (.restrictByExistence (.joinedBy connector) negated child) := by
  cases connector <;> cases negated
  · exact .andWhereExists child
  · exact .andWhereNotExists child
  · exact .orWhereExists child
  · exact .orWhereNotExists child

end Families

end Method

namespace Ledger

variable {restriction : Restriction} {c : Call}

/-- A call starts the conditions afresh just if it is one of the methods that replace them. -/
theorem restarts_conditions_iff :
    (Ledger.conditions restriction).restarts c = true ↔ Method.Replaces restriction c := by
  constructor
  · intro restart
    cases c with
    | restrict target placement negated body =>
      cases placement with
      | joinedBy connector => cases restart
      | replacing =>
        obtain rfl : target = restriction := of_decide_eq_true restart
        exact Method.replaces_restrict target negated body
    | restrictAll target bodies =>
      obtain rfl : target = restriction := of_decide_eq_true restart
      cases target with
      | rows => exact .whereAll bodies
      | groups => exact .havingAll bodies
    | restrictByExistence placement negated child =>
      cases placement with
      | joinedBy connector => cases restart
      | replacing =>
        obtain rfl : restriction = .rows := of_decide_eq_true restart
        exact Method.replaces_restrictByExistence negated child
    | _ => cases restart
  · intro replaces
    cases replaces <;> rfl

/-- A call that keeps the conditions asks for one more just if it is one of the methods that add. -/
theorem adds_condition_iff {connector : Connector} {modifier : Option Modifier} {body : Operand} :
    (Ledger.conditions restriction).restarts c = false ∧
        c.asked restriction = [⟨some connector, modifier, body⟩] ↔
      Method.Adds restriction connector modifier body c := by
  constructor
  · rintro ⟨keeps, asked⟩
    cases c with
    | restrict target placement negated =>
      by_cases same : target = restriction
      · obtain rfl := same
        cases placement with
        | replacing => simp [Ledger.conditions] at keeps
        | joinedBy connector =>
          rw [Call.asked, if_pos rfl] at asked
          cases asked
          exact Method.adds_restrict target connector negated body
      · simp [Call.asked, same] at asked
    | restrictAll target bodies =>
      by_cases same : target = restriction
      · simp [Ledger.conditions, same] at keeps
      · simp [Call.asked, same] at asked
    | restrictByExistence placement negated child =>
      by_cases same : restriction = .rows
      · obtain rfl := same
        cases placement with
        | replacing => simp [Ledger.conditions] at keeps
        | joinedBy connector =>
          rw [Call.asked, if_pos rfl] at asked
          cases asked
          exact Method.adds_restrictByExistence connector negated child
      · simp [Call.asked, same] at asked
    | _ => cases asked
  · intro adds
    cases adds <;> exact ⟨rfl, rfl⟩

end Ledger

/-! ### Conditions behind a call -/

namespace Statement

variable {s : Statement} {c : Call} {restriction : Restriction} {list : List Condition}

@[simp] theorem conditionsOn_setConditionsOn (group : ConditionGroup) :
    (s.setConditionsOn restriction group).conditionsOn restriction = group := by
  cases restriction <;> rfl

theorem conditionsOn_pushCondition {body : Operand}
    (filled : ∀ t, body = .nested t → t.isEmpty = false)
    (before : s.conditionsOn restriction = .connected list) (connector : Connector)
    (modifier : Option Modifier) :
    (s.pushCondition restriction connector modifier body).conditionsOn restriction =
      .connected (list ++ [⟨some connector, modifier, body⟩].filter (!·.body.isBlank)) := by
  have same : body.isEmpty = body.isBlank := by
    cases body with
    | sql text => rfl
    | nested t => exact filled t rfl
  unfold pushCondition
  rw [same]
  cases blank : body.isBlank with
  | true =>
    cases body with
    | sql text => simpa [blank] using before
    | nested t => cases blank
  | false => simp [blank, before, ConditionGroup.push_connected]

theorem conditionsOn_pushAll {bodies : List Operand}
    (filled : ∀ t, .nested t ∈ bodies → t.isEmpty = false)
    (before : s.conditionsOn restriction = .connected list) :
    (bodies.foldl (fun s body => s.pushCondition restriction .and none body) s).conditionsOn
        restriction =
      .connected (list ++ (bodies.map (⟨some .and, none, ·⟩)).filter (!·.body.isBlank)) := by
  induction bodies generalizing s list with
  | nil => simpa using before
  | cons body rest ih =>
    have first := conditionsOn_pushCondition
      (fun t same => filled t (same ▸ List.mem_cons_self)) before .and none
    have later := ih (fun t member => filled t (List.mem_cons_of_mem body member)) first
    rw [List.append_assoc, ← List.filter_append] at later
    exact later

/-- A condition given by a call that meets no error is not an empty statement. -/
theorem isEmpty_of_error? {t : Statement} (clean : c.error? s = none)
    (given : (restriction.place, .nested t) ∈ c.offers) : t.isEmpty = false := by
  have fit := Call.unfit?_of_error? clean given
  cases restriction <;> simpa [Place.unfit?, Restriction.place] using fit

theorem conditionsOn_restrict {body : Operand} (opened : s.gateError? restriction.clause = none)
    (filled : ∀ t, body = .nested t → t.isEmpty = false)
    (before : s.conditionsOn restriction = .connected list) (placement : Placement)
    (modifier : Option Modifier) :
    (s.restrict restriction placement modifier body).conditionsOn restriction =
      .connected ((match placement with | .replacing => [] | .joinedBy _ => list) ++
        [⟨some placement.connector, modifier, body⟩].filter (!·.body.isBlank)) := by
  rw [restrict, ifAccepts_eq_of_open opened]
  cases placement with
  | replacing => exact conditionsOn_pushCondition filled (conditionsOn_setConditionsOn []) _ _
  | joinedBy connector => exact conditionsOn_pushCondition filled before _ _

theorem conditionsOn_apply (family : c.facet = restriction.facet) (clean : c.error? s = none)
    (before : s.conditionsOn restriction = .connected list) :
    (s.apply c).conditionsOn restriction =
      .connected ((Ledger.conditions restriction).next list c) := by
  have opened {gate : Clause} := @Call.gateError?_of_error? s c gate clean
  cases c with
  | restrict target placement negated body =>
    obtain rfl : target = restriction := Restriction.eq_of_facet_eq family
    have filled : ∀ t, body = .nested t → t.isEmpty = false := by
      rintro t rfl
      exact isEmpty_of_error? clean List.mem_cons_self
    rw [apply, conditionsOn_restrict (opened rfl) filled before]
    cases placement <;> simp [Ledger.next, Ledger.conditions, Call.asked]
  | restrictAll target bodies =>
    obtain rfl : target = restriction := Restriction.eq_of_facet_eq family
    have filled : ∀ t, .nested t ∈ bodies → t.isEmpty = false := fun t member =>
      isEmpty_of_error? clean (List.mem_map_of_mem member)
    have cleared : (s.setConditionsOn target []).conditionsOn target = .connected [] :=
      conditionsOn_setConditionsOn []
    rw [apply, restrictAll, ifAccepts_eq_of_open (opened rfl), conditionsOn_pushAll filled cleared]
    simp [Ledger.next, Ledger.conditions, Call.asked]
  | restrictByExistence placement negated child =>
    obtain rfl : .rows = restriction := Restriction.eq_of_facet_eq family
    have visible : child.isEmpty = false :=
      @isEmpty_of_error? s _ .rows child clean List.mem_cons_self
    have filled : ∀ t, Operand.nested child = .nested t → t.isEmpty = false := by
      rintro t ⟨⟩
      exact visible
    rw [apply, restrictByExistence, visible]
    rw [if_neg Bool.false_ne_true, conditionsOn_restrict (opened rfl) filled before]
    cases placement <;> simp [Ledger.next, Ledger.conditions, Call.asked]
  | _ => cases restriction <;> cases family

/-! ### Runs -/

/-- After a run that records no error, the select list and the columns to group and to order by are
those of the last call that replaced them and of all calls that added to them since. The conditions
on rows and on groups are so as well, each with the connector and the modifier of its call, but that
the first one has no connector and empty text is left out. Joins and members of a UNION are those
of all calls. -/
theorem run_cumulative {calls : List Call}
    (clean : (({} : Statement).run calls).firstError = none) :
    (({} : Statement).run calls).selectList = Ledger.selectList.entries calls ∧
      (({} : Statement).run calls).groupColumns = Ledger.grouping.entries calls ∧
      (({} : Statement).run calls).orderTerms = Ledger.ordering.entries calls ∧
      (∀ restriction, (({} : Statement).run calls).conditionsOn restriction =
        .connected ((Ledger.conditions restriction).entries calls)) ∧
      (({} : Statement).run calls).joins = calls.flatMap Ledger.joins.given ∧
      (({} : Statement).run calls).unionMembers = calls.flatMap Ledger.unionMembers.given := by
  refine ⟨?_, ?_, ?_, fun restriction => ?_, ?_, ?_⟩
  · exact Ledger.run_list (fun _ => rfl) (fun _ _ => rfl) (by decide) rfl
      (fun s c => selectList_apply) clean
  · exact Ledger.run_list (fun _ => rfl) (fun _ _ => rfl) (by decide) rfl
      (fun s c => groupColumns_apply) clean
  · exact Ledger.run_list (fun _ => rfl) (fun _ _ => rfl) (by decide) rfl
      (fun s c => orderTerms_apply) clean
  · refine @Ledger.run _ _ (Ledger.conditions restriction) calls
      (fun s => s.conditionsOn restriction) (fun group list => group = .connected list)
      (fun s => conditionsOn_facet s restriction)
      (fun s kind => ?_) ?_ ?_
      (fun c _ family s sound list => conditionsOn_apply family sound) clean
    · cases restriction <;> rfl
    · cases restriction <;> decide
    · cases restriction <;> rfl
  · rw [← Ledger.entries_of_never (fun _ => rfl) calls]
    exact Ledger.run_list (fun _ => rfl) (fun _ _ => rfl) (by decide) rfl
      (fun s c => joins_apply) clean
  · rw [← Ledger.entries_of_never (fun _ => rfl) calls]
    exact Ledger.run_list (fun _ => rfl) (fun _ _ => rfl) (by decide) rfl
      (fun s c => unionMembers_apply) clean

/-- A SELECT of which everything that can be replaced was replaced, after it was given once. -/
def redraftedCalls : List Call :=
  [Method.where_ (.sql "a = 1"), .select [.sql "a"], .groupBy ["a"],
    Method.leftJoin (.sql "y") (.sql "a = c"), Method.orderBy "a" .ascending,
    Method.whereAll [.sql "", .sql "b = 2"], .select [.sql "b"], .groupBy ["b"],
    Method.orWhereNotExists readsTable, .addSelect [.nested readsTable],
    Method.andWhere (.sql ""), Method.orderBy "b" .descending, Method.unionAll readsTable,
    Method.crossJoin (.sql "z")]

theorem run_cumulative_redrafted :
    (({} : Statement).run redraftedCalls).firstError = none ∧
      (({} : Statement).run redraftedCalls).selectList =
        [.sql "b", (Operand.nested readsTable).embedded] ∧
      (({} : Statement).run redraftedCalls).groupColumns = ["b"] ∧
      (({} : Statement).run redraftedCalls).orderTerms = [("b", .descending)] ∧
      (({} : Statement).run redraftedCalls).conditionsOn .rows =
        [⟨none, none, .sql "b = 2"⟩, ⟨some .or, some .notExists, .nested readsTable⟩] ∧
      (({} : Statement).run redraftedCalls).joins =
        [⟨.left, .sql "y", some (.sql "a = c")⟩, ⟨.cross, .sql "z", none⟩] ∧
      (({} : Statement).run redraftedCalls).unionMembers = [⟨readsTable, true⟩] := by
  have clean : (({} : Statement).run redraftedCalls).firstError = none := rfl
  obtain ⟨items, grouping, ordering, conditions, joins, members⟩ := run_cumulative clean
  exact ⟨clean, items, grouping, ordering, conditions .rows, joins, members⟩

end Statement
end SqlBuilder
