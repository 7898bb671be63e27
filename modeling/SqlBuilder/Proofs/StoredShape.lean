import SqlBuilder.Proofs.AnyDepth
import SqlBuilder.Proofs.Facets

/-!
# The shape of what is stored

Statements of a kind, of any kind or with anything in them: each place asks something else of a
statement, and a refused one is not stored. Conditions are given one by one and their groups are
cleared and refilled, so that the first one has no connector is an invariant of runs
(`ConditionGroup.WellFormed`). `Reachable.shaped_within` says all of it for every depth.
-/
namespace SqlBuilder

/-! ### Groups of conditions -/

/-- Connectors stand between conditions, and existence is asked of rows only, by a nested
statement. -/
structure ConditionGroup.WellFormed (restriction : Restriction) (group : ConditionGroup) :
    Prop where
  first : ∀ condition ∈ group.head?, condition.connector = none
  later : ∀ condition ∈ group.tail, condition.connector.isSome
  existence : ∀ condition ∈ group,
    condition.modifier = some .exists ∨ condition.modifier = some .notExists →
      restriction = .rows ∧ ∃ t, condition.body = .nested t

theorem ConditionGroup.WellFormed.nil (restriction : Restriction) :
    ConditionGroup.WellFormed restriction [] := by
  constructor <;> simp

theorem ConditionGroup.WellFormed.push {restriction : Restriction} {group : ConditionGroup}
    (wellFormed : group.WellFormed restriction) (connector : Connector)
    {modifier : Option Modifier} {body : Operand}
    (existence : modifier = some .exists ∨ modifier = some .notExists →
      restriction = .rows ∧ ∃ t, body = .nested t) :
    (group.push connector modifier body).WellFormed restriction := by
  cases group with
  | nil =>
    constructor
    · simp [ConditionGroup.push]
    · simp [ConditionGroup.push]
    · simpa [ConditionGroup.push] using existence
  | cons condition rest =>
    constructor
    · simpa [ConditionGroup.push] using wellFormed.first
    · intro later member
      rcases List.mem_append.mp member with before | added
      · exact wellFormed.later later before
      · rw [List.mem_singleton.mp added]
        rfl
    · intro pushed member
      rcases List.mem_append.mp member with before | added
      · exact wellFormed.existence pushed before
      · rw [List.mem_singleton.mp added]
        exact existence

namespace Statement

variable {s t : Statement} {c : Call}

/-- Both groups of a statement are well formed. -/
def GroupsWellFormed (s : Statement) : Prop :=
  ∀ restriction, (s.conditionsOn restriction).WellFormed restriction

@[simp] theorem conditionsOn_record (error? : Option Error) (restriction : Restriction) :
    (s.record error?).conditionsOn restriction = s.conditionsOn restriction := by
  cases restriction <;> rfl

theorem conditionsOn_facet (s : Statement) (restriction : Restriction) :
    (s.facet restriction.facet).conditionsOn restriction = s.conditionsOn restriction := by
  cases restriction <;> rfl

/-- Calls of other families leave a group alone. -/
theorem conditionsOn_apply_of_ne {restriction : Restriction}
    (other : restriction.facet ≠ c.facet) :
    (s.apply c).conditionsOn restriction = s.conditionsOn restriction := by
  refine @apply_frame restriction.facet _ (fun s => s.conditionsOn restriction) c
    (fun s => conditionsOn_facet s restriction) (fun s kind => ?_) other ?_ s
  · cases restriction <;> rfl
  · cases restriction <;> decide

namespace GroupsWellFormed

theorem record (before : s.GroupsWellFormed) (error? : Option Error) :
    (s.record error?).GroupsWellFormed := by
  intro restriction
  rw [conditionsOn_record]
  exact before restriction

theorem ifAccepts {clause : Clause} {change : Statement → Statement} (before : s.GroupsWellFormed)
    (changed : (change s).GroupsWellFormed) : (s.ifAccepts clause change).GroupsWellFormed :=
  ifAccepts_preserves (fun e => before.record (some e)) changed

theorem setConditionsOn {restriction : Restriction} {group : ConditionGroup}
    (before : s.GroupsWellFormed) (wellFormed : group.WellFormed restriction) :
    (s.setConditionsOn restriction group).GroupsWellFormed := by
  intro other
  cases restriction <;> cases other
  · exact wellFormed
  · exact before .groups
  · exact before .rows
  · exact wellFormed

theorem pushCondition {restriction : Restriction} {connector : Connector}
    {modifier : Option Modifier} {body : Operand} (before : s.GroupsWellFormed)
    (existence : modifier = some .exists ∨ modifier = some .notExists →
      restriction = .rows ∧ ∃ t, body = .nested t) :
    (s.pushCondition restriction connector modifier body).GroupsWellFormed := by
  unfold Statement.pushCondition
  split
  · split
    · exact before
    · exact before.record _
  · exact (before.setConditionsOn ((before restriction).push connector existence)).record _

theorem restrict {restriction : Restriction} {placement : Placement} {modifier : Option Modifier}
    {body : Operand} (before : s.GroupsWellFormed)
    (existence : modifier = some .exists ∨ modifier = some .notExists →
      restriction = .rows ∧ ∃ t, body = .nested t) :
    (s.restrict restriction placement modifier body).GroupsWellFormed := by
  apply before.ifAccepts
  cases placement with
  | replacing => exact (before.setConditionsOn (.nil restriction)).pushCondition existence
  | joinedBy connector => exact before.pushCondition existence

theorem restrictAll {restriction : Restriction} (before : s.GroupsWellFormed)
    (bodies : List Operand) : (s.restrictAll restriction bodies).GroupsWellFormed := by
  apply before.ifAccepts
  have cleared := before.setConditionsOn (.nil restriction)
  generalize s.setConditionsOn restriction [] = t at cleared
  induction bodies generalizing t with
  | nil => exact cleared
  | cons body rest ih => exact ih _ (cleared.pushCondition (by simp))

theorem restrictByExistence (before : s.GroupsWellFormed) (placement : Placement)
    (negated : Bool) (child : Statement) :
    (s.restrictByExistence placement negated child).GroupsWellFormed := by
  unfold Statement.restrictByExistence
  split
  · exact before.ifAccepts (before.record _)
  · exact before.restrict fun _ => ⟨rfl, child, rfl⟩

theorem apply (before : s.GroupsWellFormed) (c : Call) : (s.apply c).GroupsWellFormed := by
  cases c with
  | restrict restriction placement negated body =>
    refine before.restrict ?_
    cases negated <;> simp
  | restrictAll restriction bodies => exact before.restrictAll bodies
  | restrictByExistence placement negated child =>
    exact before.restrictByExistence placement negated child
  | _ =>
    intro restriction
    rw [conditionsOn_apply_of_ne]
    · exact before restriction
    · cases restriction <;> simp [Call.facet, Restriction.facet]

end GroupsWellFormed

theorem groupsWellFormed_start : ({} : Statement).GroupsWellFormed := by
  intro restriction
  cases restriction <;> exact .nil _

/-! ### Stored statements -/

/-- What each place asks of the statements stored there, and how conditions follow each other. -/
structure Shaped (s : Statement) : Prop where
  typed : ∀ place ∈ [Place.selectList, .source, .joinTarget, .value, .cteBody],
    ∀ t, .nested t ∈ s.operandsAt place → t.kind.isSome
  selects : ∀ place ∈ [Place.unionMember, .insertedRows],
    ∀ t, .nested t ∈ s.operandsAt place → t.kind = some .select
  filled : ∀ place ∈ [Place.joinCondition, .filter, .groupFilter],
    ∀ t, .nested t ∈ s.operandsAt place → t.isEmpty = false
  visible : ∀ restriction : Restriction, .sql "" ∉ s.operandsAt restriction.place
  groups : s.GroupsWellFormed

end Statement

theorem Reachable.groupsWellFormed {s : Statement} (reachable : Reachable s) :
    s.GroupsWellFormed := by
  induction reachable with
  | start => exact Statement.groupsWellFormed_start
  | call c before given ih => exact ih.apply c

namespace Placed

variable {s : Statement}

/-- A place holds what it admits. -/
theorem admits_of_stored {place : Place} {operand : Operand} (placed : Placed s)
    (stored : operand ∈ s.operandsAt place) : place.Admits operand := by
  cases placed with
  | mk reachable derived aliasName =>
    rw [Statement.operandsAt_marked] at stored
    obtain ⟨given, admitted, as, _⟩ := reachable.origin_of_stored stored
    cases as with
    | sql text => exact admitted
    | nested t aliasName =>
      -- Whether a statement has a verb or content does not depend on its marks.
      cases place with
      | insertedRows | unionMember =>
        obtain ⟨u, same, selects⟩ := admitted
        cases same
        exact ⟨_, rfl, selects⟩
      | _ => exact admitted

theorem groupsWellFormed (placed : Placed s) : s.GroupsWellFormed := by
  cases placed with
  | mk reachable derived aliasName =>
    intro restriction
    have wellFormed := reachable.groupsWellFormed restriction
    cases restriction <;> exact wellFormed

theorem shaped (placed : Placed s) : s.Shaped where
  typed place needsVerb t stored := by
    have admitted := placed.admits_of_stored stored
    simp only [List.mem_cons, List.not_mem_nil, or_false] at needsVerb
    rcases needsVerb with rfl | rfl | rfl | rfl | rfl <;>
      simpa [Place.Admits, Operand.lacksVerb, ← Option.not_isSome] using admitted
  selects place needsRows t stored := by
    have admitted := placed.admits_of_stored stored
    simp only [List.mem_cons, List.not_mem_nil, or_false] at needsRows
    rcases needsRows with rfl | rfl <;> simpa [Place.Admits] using admitted
  filled place needsContent t stored := by
    have admitted := placed.admits_of_stored stored
    simp only [List.mem_cons, List.not_mem_nil, or_false] at needsContent
    rcases needsContent with rfl | rfl | rfl <;>
      simpa [Place.Admits, Operand.isEmpty, Operand.statement?] using admitted
  visible restriction stored := by
    have admitted := placed.admits_of_stored stored
    cases restriction <;> simp [Place.Admits, Operand.isEmpty, Restriction.place] at admitted
  groups := placed.groupsWellFormed

end Placed

/-- In a reachable statement, and in every statement stored in it at any depth, each place holds
what it asks for and conditions are connected, also after refused calls. -/
theorem Reachable.shaped_within {s t : Statement} (reachable : Reachable s) (inside : t.Within s) :
    t.Shaped :=
  (reachable.placed.within inside).shaped

/-- A group that is filled, offered an empty statement, cleared and filled again, on a statement
that refused a member of a UNION. -/
def refilledGroup : Statement :=
  ({} : Statement).run [.select [.sql "a"], .restrict .rows .replacing false (.sql "a = 1"),
    .restrict .rows (.joinedBy .or) true (.nested {}), .union false verblessMember,
    .restrictAll .rows [.sql "", .sql "a = 2", .nested readsTable],
    .restrictByExistence (.joinedBy .or) true readsTable]

def readsRefilledGroup : Statement :=
  ({} : Statement).run [.select [.sql "b"], .readFromAs (.nested refilledGroup) "t"]

theorem shaped_refilledGroup :
    Reachable readsRefilledGroup ∧
      Statement.Within { refilledGroup with derived := true, aliasName := some "t" }
        readsRefilledGroup ∧
      refilledGroup.conditions.map (·.connector) = [none, some .and, some .or] ∧
      refilledGroup.conditions.map (·.modifier) = [none, none, some .notExists] ∧
      Statement.Shaped { refilledGroup with derived := true, aliasName := some "t" } := by
  have inner : Reachable refilledGroup := by
    apply Reachable.start.run_of_offers
    simp [or_imp, forall_and, reachable_verblessMember, reachable_readsTable, Reachable.start]
  have outer : Reachable readsRefilledGroup := by
    apply Reachable.start.run_of_offers
    simp [inner]
  have stored : .nested { refilledGroup with derived := true, aliasName := some "t" } ∈
      readsRefilledGroup.operandsAt .source :=
    List.mem_cons_self
  have inside : Statement.Within { refilledGroup with derived := true, aliasName := some "t" }
      readsRefilledGroup := .nested stored (.self _)
  exact ⟨outer, inside, rfl, rfl, outer.shaped_within inside⟩

end SqlBuilder
