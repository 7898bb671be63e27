import Mathlib.Tactic.Tauto
import SqlBuilder.Proofs.IgnoredClauses
import SqlBuilder.Proofs.RenderedParts

/-!
# When a statement renders

A statement that was built without an error renders exactly when it and every statement shown in it
is complete, and fails with a validation error otherwise. `DecidedBy` says both of one step of the
renderer; it goes through sequences and lists, so the theorem follows the layout of each kind.
-/
namespace SqlBuilder

/-- The outcome is a success under the condition and a failed validation otherwise. -/
def DecidedBy {α : Type} (condition : Prop) : Except Error α → Prop
  | .ok _ => condition
  | .error e => ¬ condition ∧ ∃ reason, e = .validation reason

namespace DecidedBy

variable {α β : Type} {condition other : Prop} {outcome : Except Error α}

theorem congr (decided : DecidedBy condition outcome) (same : condition ↔ other) :
    DecidedBy other outcome := by
  rwa [← propext same]

theorem pure (value : α) : DecidedBy True (pure value : Except Error α) := trivial

theorem bind {next : α → Except Error β} (first : DecidedBy condition outcome)
    (later : ∀ value, outcome = .ok value → DecidedBy other (next value)) :
    DecidedBy (condition ∧ other) (outcome >>= next) := by
  cases outcome with
  | error e => exact ⟨fun both => first.1 both.1, first.2⟩
  | ok value => exact (later value rfl).congr (and_iff_right first).symm

theorem map (decided : DecidedBy condition outcome) (f : α → β) :
    DecidedBy condition (f <$> outcome) := by
  cases outcome with
  | error e => exact decided
  | ok value => exact decided

theorem mapM {f : α → Except Error β} {each : α → Prop} {items : List α}
    (decided : ∀ item ∈ items, DecidedBy (each item) (f item)) :
    DecidedBy (∀ item ∈ items, each item) (items.mapM f) := by
  induction items with
  | nil => exact (DecidedBy.pure []).congr (by simp)
  | cons item rest ih =>
    obtain ⟨first, later⟩ := List.forall_mem_cons.mp decided
    rw [List.mapM_cons]
    refine (first.bind fun _ _ => (ih later).bind fun _ _ => .pure _).congr ?_
    rw [List.forall_mem_cons, and_true]

theorem isOk_iff (decided : DecidedBy condition outcome) :
    (∃ value, outcome = .ok value) ↔ condition := by
  cases outcome with
  | error e =>
    refine ⟨?_, fun holds => absurd holds decided.1⟩
    rintro ⟨value, same⟩
    cases same
  | ok value => exact ⟨fun _ => decided, fun _ => ⟨value, rfl⟩⟩

theorem validation_of_error {e : Error} (decided : DecidedBy condition outcome)
    (failed : outcome = .error e) : ∃ reason, e = .validation reason := by
  subst failed
  exact decided.2

end DecidedBy

namespace Statement

/-- What a statement of each kind needs, whatever is nested in it. -/
def Complete (s : Statement) : Prop :=
  match s.kind with
  | none => s.ctes = [] ∧
      ∀ clause ∈ Clause.checked, clause ≠ .filter → clause.populated s = false
  | some .insert =>
      match s.payload with
      | none => s.columnList = none
      | some (.rows _) => True
      | some (.named pairs) =>
          ∀ columns, s.columnList = some columns → columns.length = pairs.length
      | some (.positional values) =>
          ∃ columns, s.columnList = some columns ∧ columns.length = values.length
  | some .update => ∃ pairs, s.payload = some (.named pairs) ∧ pairs ≠ []
  | some .select | some .delete => True

/-- Conditions on groups are left out of a SELECT that has no columns to group by. -/
def Shows (s : Statement) (place : Place) : Prop :=
  ¬ (place = .groupFilter ∧ s.kind = some .select ∧ s.groupColumns = [])

/-- The statement is the other one or nested in it, and not in conditions that are left out. -/
inductive ShownIn : Statement → Statement → Prop where
  | self (s : Statement) : ShownIn s s
  | nested {t u s : Statement} {place : Place} (shows : s.Shows place)
      (stored : .nested u ∈ s.operandsAt place) (deeper : ShownIn t u) : ShownIn t s

/-- The statement and all that is shown in it are complete. -/
def AllComplete (s : Statement) : Prop := ∀ t, ShownIn t s → t.Complete

end Statement

def Operand.AllComplete (operand : Operand) : Prop :=
  ∀ t, operand = .nested t → t.AllComplete

@[simp] theorem Operand.allComplete_nested {t : Statement} :
    (Operand.nested t).AllComplete ↔ t.AllComplete :=
  ⟨fun all => all t rfl, fun all _ same => by cases same; exact all⟩

@[simp] theorem Operand.allComplete_sql (text : String) : (Operand.sql text).AllComplete := by
  rintro t ⟨⟩

namespace Statement

/-- The operands at a place are complete. -/
def PlaceComplete (s : Statement) (place : Place) : Prop :=
  ∀ operand ∈ s.operandsAt place, operand.AllComplete

variable {s : Statement}

theorem allComplete_iff :
    s.AllComplete ↔ s.Complete ∧ ∀ place, s.Shows place → s.PlaceComplete place := by
  constructor
  · intro all
    refine ⟨all s (.self s), ?_⟩
    rintro place shows operand stored t rfl u deeper
    exact all u (.nested shows stored deeper)
  · rintro ⟨complete, places⟩ t shown
    cases shown with
    | self => exact complete
    | nested shows stored deeper => exact places _ shows _ stored _ rfl t deeper

theorem placeComplete_of_nil {place : Place} (nothing : s.operandsAt place = []) :
    s.PlaceComplete place := by
  intro operand stored
  rw [nothing] at stored
  cases stored

/-- A statement without a query stores operands at few places. -/
theorem WithoutQuery.allComplete_iff (without : s.WithoutQuery)
    (source : s.PlaceComplete .source) :
    s.AllComplete ↔ s.Complete ∧ s.PlaceComplete .filter ∧ s.PlaceComplete .value ∧
      s.PlaceComplete .insertedRows ∧ s.PlaceComplete .cteBody := by
  obtain ⟨noItems, noTargets, noJoinConditions, noGroupConditions, noMembers⟩ :=
    without.operandsAt_eq_nil
  have items := placeComplete_of_nil noItems
  have targets := placeComplete_of_nil noTargets
  have joinConditions := placeComplete_of_nil noJoinConditions
  have groupConditions := placeComplete_of_nil noGroupConditions
  have members := placeComplete_of_nil noMembers
  rw [Statement.allComplete_iff, Place.forall_iff]
  simp only [Shows, reduceCtorEq, false_and, not_false_eq_true, forall_const, true_and, items,
    source, targets, joinConditions, groupConditions, members, implies_true]

/-- A statement that writes rows has a table, which is text. -/
theorem Compatible.allComplete_iff {kind : Kind} (compatible : s.Compatible)
    (clean : s.firstError = none) (typed : s.kind = some kind) (writes : kind ≠ .select) :
    s.AllComplete ↔ s.Complete ∧ s.PlaceComplete .filter ∧ s.PlaceComplete .value ∧
      s.PlaceComplete .insertedRows ∧ s.PlaceComplete .cteBody := by
  obtain ⟨table, aimed⟩ := compatible.exists_table clean typed writes
  apply (compatible.withoutQuery typed writes).allComplete_iff
  intro operand stored
  obtain rfl : operand = .sql table := by simpa [operandsAt, aimed] using stored
  exact Operand.allComplete_sql table

end Statement

/-! ### Parts -/

section Parts

variable {p : Pagination} {s : Statement}

/-- What the induction gives for the statements stored in one. -/
def Statement.HoldsDecided (p : Pagination) (s : Statement) : Prop :=
  ∀ place t, .nested t ∈ s.operandsAt place →
    t.firstError = none ∧ DecidedBy t.AllComplete (t.render p)

/-- A statement with neither verb nor clause has an empty text. -/
theorem Statement.bareText_of_isEmpty {t : Statement} (empty : t.isEmpty = true) :
    t.bareText p (t.parts p) = .ok "" := by
  obtain ⟨untyped, unconditional, bare⟩ := Statement.isEmpty_iff.mp empty
  rw [Statement.bareText, untyped]
  dsimp only
  rw [Statement.verblessText, bare, Statement.parts, unconditional]
  rfl

theorem Statement.exists_render_of_isEmpty {t : Statement} (clean : t.firstError = none)
    (empty : t.isEmpty = true) : ∃ sql, t.render p = .ok sql := by
  rw [Statement.render_eq_text, Statement.text, clean, Statement.bareText_of_isEmpty empty]
  exact ⟨_, rfl⟩

theorem Statement.Compatible.tableText {kind : Kind} (compatible : s.Compatible)
    (clean : s.firstError = none) (typed : s.kind = some kind) (writes : kind ≠ .select) :
    DecidedBy True (Statement.tableText kind (s.parts p)) := by
  obtain ⟨table, aimed⟩ := compatible.exists_table clean typed writes
  rw [Statement.tableText, Statement.parts, aimed]
  trivial

namespace Statement.HoldsDecided

variable (held : s.HoldsDecided p)
include held

theorem render {place : Place} {operand : Operand} (stored : operand ∈ s.operandsAt place) :
    DecidedBy operand.AllComplete (operand.render p) := by
  cases operand with
  | sql text => exact (DecidedBy.pure text).congr (by simp)
  | nested t => exact (held place t stored).2.congr (by simp)

theorem renderValue {place : Place} {operand : Operand} (stored : operand ∈ s.operandsAt place) :
    DecidedBy operand.AllComplete (operand.renderValue p) := by
  cases operand with
  | sql text => exact (DecidedBy.pure text).congr (by simp)
  | nested t =>
    rw [Operand.renderValue, bind_pure_comp]
    exact ((held place t stored).2.map _).congr (by simp)

theorem selectList : DecidedBy (s.PlaceComplete .selectList) (s.parts p).selectList :=
  .mapM fun _ stored => held.render stored

theorem values : DecidedBy (s.PlaceComplete .value) (s.parts p).values :=
  .mapM fun _ stored => held.renderValue stored

theorem source : DecidedBy (s.PlaceComplete .source) (s.parts p).source := by
  rw [Statement.parts]
  cases stored : s.source with
  | none => exact Statement.placeComplete_of_nil (by rw [Statement.operandsAt, stored]; rfl)
  | some operand =>
    rw [Option.mapM_some]
    apply ((held.render (Statement.mem_operandsAt_source stored)).map some).congr
    simp [Statement.PlaceComplete, Statement.operandsAt, stored]

theorem ctes : DecidedBy (s.PlaceComplete .cteBody) (s.parts p).ctes := by
  have each (cte : Cte) (member : cte ∈ s.ctes) :
      DecidedBy cte.body.AllComplete (cte.render p) := by
    rw [Cte.render, bind_pure_comp]
    exact (held .cteBody _ (Statement.mem_operandsAt_cteBody member)).2.map _
  apply (DecidedBy.mapM each).congr
  simp [Statement.PlaceComplete, Statement.operandsAt]

theorem unionMembers : DecidedBy (s.PlaceComplete .unionMember) (s.parts p).unionMembers := by
  have each (member : UnionMember) (inList : member ∈ s.unionMembers) :
      DecidedBy member.statement.AllComplete (member.render p) := by
    rw [UnionMember.render, bind_pure_comp]
    exact (held .unionMember _ (Statement.mem_operandsAt_unionMember inList)).2.map _
  apply (DecidedBy.mapM each).congr
  simp [Statement.PlaceComplete, Statement.operandsAt]

/-- The conditions of either list. -/
theorem restriction (place : Place) {conditions : List Condition}
    (listed : s.operandsAt place = conditions.map (·.body)) :
    DecidedBy (s.PlaceComplete place) (conditions.mapM (Condition.render p)) := by
  have each (condition : Condition) (member : condition ∈ conditions) :
      DecidedBy condition.body.AllComplete (condition.render p) := by
    have stored : condition.body ∈ s.operandsAt place := by
      rw [listed]
      exact List.mem_map_of_mem member
    rw [Condition.render, bind_pure_comp]
    exact (held.renderValue stored).map _
  apply (DecidedBy.mapM each).congr
  simp [Statement.PlaceComplete, listed]

/-- An empty condition on a join is left out, and it is complete. -/
theorem joinCondition {condition : Option Operand}
    (stored : ∀ operand ∈ condition, operand ∈ s.operandsAt .joinCondition) :
    DecidedBy (∀ operand ∈ condition, operand.AllComplete)
      (Operand.renderJoinCondition p condition) := by
  cases condition with
  | none => exact (DecidedBy.pure none).congr (by simp)
  | some operand =>
    have inPlace := stored operand rfl
    have decided : DecidedBy operand.AllComplete
        (Operand.renderJoinCondition p (some operand)) := by
      unfold Operand.renderJoinCondition
      split
      next empty =>
        cases operand with
        | sql text => exact Operand.allComplete_sql text
        | nested t =>
          obtain ⟨clean, decided⟩ := held .joinCondition t inPlace
          have rendered := Statement.exists_render_of_isEmpty (p := p) clean empty
          exact Operand.allComplete_nested.mpr (decided.isOk_iff.mp rendered)
      next visible =>
        rw [bind_pure_comp]
        exact (held.renderValue inPlace).map some
    exact decided.congr (by simp)

theorem joins : DecidedBy (s.PlaceComplete .joinTarget ∧ s.PlaceComplete .joinCondition)
    (s.parts p).joins := by
  have each (join : Join) (member : join ∈ s.joins) :
      DecidedBy (join.target.AllComplete ∧ ∀ operand ∈ join.condition, operand.AllComplete)
        (join.render p) := by
    have target := Statement.mem_operandsAt_joinTarget member
    have condition := Statement.mem_operandsAt_joinCondition member
    refine ((held.render target).bind fun _ _ => (held.joinCondition condition).map _).congr ?_
    exact Iff.rfl
  have conditions : (∀ join ∈ s.joins, ∀ operand ∈ join.condition, operand.AllComplete) ↔
      s.PlaceComplete .joinCondition := by
    constructor
    · intro all operand stored
      obtain ⟨join, member, given⟩ := List.mem_filterMap.mp stored
      exact all join member operand given
    · intro all join member operand given
      exact all operand (Statement.mem_operandsAt_joinCondition member operand given)
  apply (DecidedBy.mapM each).congr
  rw [← conditions]
  simp [Statement.PlaceComplete, Statement.operandsAt, forall_and]

theorem groupText :
    DecidedBy (s.groupColumns ≠ [] → s.PlaceComplete .groupFilter)
      (s.groupText (s.parts p).groupConditions) := by
  unfold Statement.groupText
  split
  next ungrouped => exact fun grouped => absurd ungrouped grouped
  next grouped =>
    rw [bind_pure_comp]
    apply ((held.restriction .groupFilter rfl).map _).congr
    exact ⟨fun all _ => all, fun all => all grouped⟩

/-- A SELECT is complete when all that it writes is. -/
theorem selectText (compatible : s.Compatible) (typed : s.kind = some .select) :
    DecidedBy s.AllComplete (s.selectText p (s.parts p)) := by
  have unpaid := compatible.populated_eq_false typed .payload (by decide) (by decide) rfl
  obtain ⟨noValues, noRows⟩ := Statement.operandsAt_eq_nil_of_unpaid unpaid
  have decided : DecidedBy _ (s.selectText p (s.parts p)) :=
    held.ctes.bind fun _ _ => held.selectList.bind fun _ _ => held.source.bind fun _ _ =>
      held.joins.bind fun _ _ => (held.restriction .filter rfl).bind fun _ _ =>
        held.groupText.bind fun _ _ => held.unionMembers.bind fun _ _ => .pure _
  apply decided.congr
  rw [Statement.allComplete_iff, Place.forall_iff, Statement.Complete, typed]
  have values := Statement.placeComplete_of_nil noValues
  have rows := Statement.placeComplete_of_nil noRows
  simp only [ne_eq, and_true, Statement.Shows, reduceCtorEq, typed, true_and, false_and,
    not_false_eq_true, forall_const, values, rows]
  tauto

theorem insertedValuesText (columns : List String) (count : Nat) :
    DecidedBy (columns.length = count ∧ s.PlaceComplete .value)
      (Statement.insertedValuesText columns count (s.parts p).values) := by
  rw [Statement.insertedValuesText_eq]
  split
  next balanced =>
    apply (held.values.map _).congr
    simp [balanced]
  next unbalanced => exact ⟨fun both => unbalanced both.1, _, rfl⟩

theorem rows {t : Statement} (inserted : s.payload = some (.rows t)) :
    DecidedBy (s.PlaceComplete .insertedRows) (s.parts p).rows := by
  have listed : s.operandsAt .insertedRows = [.nested t] := by
    rw [Statement.operandsAt, inserted]
    rfl
  have rendered : (s.parts p).rows = t.render p := by
    rw [Statement.parts, inserted]
    rfl
  rw [rendered]
  apply (held .insertedRows t (Statement.mem_operandsAt_insertedRows inserted)).2.congr
  simp [Statement.PlaceComplete, listed]

/-- The rows of an INSERT, its table and what stands before it apart. -/
theorem insertedText (typed : s.kind = some .insert) :
    DecidedBy (s.Complete ∧ s.PlaceComplete .value ∧ s.PlaceComplete .insertedRows)
      (s.insertedText (s.parts p)) := by
  rw [Statement.insertedText, Statement.Complete, typed]
  rcases paid : s.payload with _ | values | pairs | t
  · obtain ⟨noValues, noRows⟩ : s.operandsAt .value = [] ∧ s.operandsAt .insertedRows = [] := by
      simp [Statement.operandsAt, paid]
    have values := Statement.placeComplete_of_nil noValues
    have rows := Statement.placeComplete_of_nil noRows
    cases listed : s.columnList with
    | none => exact ⟨rfl, values, rows⟩
    | some columns =>
      refine ⟨?_, _, rfl⟩
      rintro ⟨⟨⟩, _⟩
  · have rows : s.PlaceComplete .insertedRows := Statement.placeComplete_of_nil
      (by simp [Statement.operandsAt, paid, Payload.rowSource?])
    cases listed : s.columnList with
    | none =>
      refine ⟨?_, _, rfl⟩
      rintro ⟨⟨columns, ⟨⟩, _⟩, _⟩
    | some columns =>
      apply (held.insertedValuesText columns values.length).congr
      simp [rows]
  · have rows : s.PlaceComplete .insertedRows := Statement.placeComplete_of_nil
      (by simp [Statement.operandsAt, paid, Payload.rowSource?])
    cases listed : s.columnList with
    | none =>
      apply (held.insertedValuesText (pairs.map (·.1)) pairs.length).congr
      simp [rows]
    | some columns =>
      apply (held.insertedValuesText columns pairs.length).congr
      simp [rows]
  · have values : s.PlaceComplete .value := Statement.placeComplete_of_nil
      (by simp [Statement.operandsAt, paid, Payload.values])
    cases listed : s.columnList with
    | none =>
      apply (held.rows paid).congr
      simp [values]
    | some columns =>
      apply ((held.rows paid).map _).congr
      simp [values]

theorem insertText (compatible : s.Compatible) (clean : s.firstError = none)
    (typed : s.kind = some .insert) : DecidedBy s.AllComplete (s.insertText (s.parts p)) := by
  have unconditional : s.conditions = [] := by
    simpa [Clause.populated] using
      compatible.populated_eq_false typed .filter (by decide) (by decide) rfl
  have conditions : s.PlaceComplete .filter := Statement.placeComplete_of_nil
    (by rw [Statement.operandsAt, unconditional]; rfl)
  have decided : DecidedBy _ (s.insertText (s.parts p)) :=
    held.ctes.bind fun _ _ => (compatible.tableText clean typed (by decide)).bind fun _ _ =>
      (held.insertedText typed).bind fun _ _ => .pure _
  apply decided.congr
  rw [compatible.allComplete_iff clean typed (by decide)]
  tauto

theorem updateText (compatible : s.Compatible) (clean : s.firstError = none)
    (typed : s.kind = some .update) : DecidedBy s.AllComplete (s.updateText (s.parts p)) := by
  have columns : DecidedBy s.Complete s.updatedColumns := by
    rw [Statement.updatedColumns, Statement.Complete, typed]
    rcases s.payload with _ | values | pairs | t
    · exact ⟨by simp, _, rfl⟩
    · exact ⟨by simp, _, rfl⟩
    · cases pairs with
      | nil => exact ⟨by simp, _, rfl⟩
      | cons pair rest => exact ⟨_, rfl, List.cons_ne_nil pair rest⟩
    · exact ⟨by simp, _, rfl⟩
  -- Without pairs the columns fail first, so nothing is asked of a nested SELECT.
  have rows : s.Complete → s.PlaceComplete .insertedRows := by
    rw [Statement.Complete, typed]
    rintro ⟨pairs, named, _⟩
    exact Statement.placeComplete_of_nil (by simp [Statement.operandsAt, named, Payload.rowSource?])
  have decided : DecidedBy _ (s.updateText (s.parts p)) :=
    columns.bind fun _ _ => held.ctes.bind fun _ _ =>
      (compatible.tableText clean typed (by decide)).bind fun _ _ => held.values.bind fun _ _ =>
        (held.restriction .filter rfl).bind fun _ _ => .pure _
  apply decided.congr
  rw [compatible.allComplete_iff clean typed (by decide)]
  tauto

theorem deleteText (compatible : s.Compatible) (clean : s.firstError = none)
    (typed : s.kind = some .delete) : DecidedBy s.AllComplete (s.deleteText (s.parts p)) := by
  have unpaid := compatible.populated_eq_false typed .payload (by decide) (by decide) rfl
  obtain ⟨noValues, noRows⟩ := Statement.operandsAt_eq_nil_of_unpaid unpaid
  have values := Statement.placeComplete_of_nil noValues
  have rows := Statement.placeComplete_of_nil noRows
  have complete : s.Complete := by
    rw [Statement.Complete, typed]
    trivial
  have decided : DecidedBy _ (s.deleteText (s.parts p)) :=
    held.ctes.bind fun _ _ => (compatible.tableText clean typed (by decide)).bind fun _ _ =>
      (held.restriction .filter rfl).bind fun _ _ => .pure _
  apply decided.congr
  rw [compatible.allComplete_iff clean typed (by decide)]
  tauto

theorem verblessText (compatible : s.Compatible) (untyped : s.kind = none) :
    DecidedBy s.AllComplete (s.verblessText (s.parts p)) := by
  have bare_iff : s.strayClause? = none ↔ s.Complete := by
    rw [Statement.strayClause?_eq_none_iff untyped, Statement.Complete, untyped]
  rw [Statement.verblessText]
  cases bare : s.strayClause? with
  | some clause =>
    refine ⟨fun all => ?_, _, rfl⟩
    have complete := bare_iff.mpr (all s (.self s))
    rw [bare] at complete
    cases complete
  | none =>
    have complete := bare_iff.mp bare
    obtain ⟨unnamed, unpopulated⟩ := (Statement.strayClause?_eq_none_iff untyped).mp bare
    obtain ⟨without, sourceless⟩ := compatible.withoutQuery_of_strayClause? untyped bare
    obtain ⟨noValues, noRows⟩ := Statement.operandsAt_eq_nil_of_unpaid
      (unpopulated .payload (by decide) (by decide))
    have source : s.PlaceComplete .source := Statement.placeComplete_of_nil
      (by rw [Statement.operandsAt, sourceless]; rfl)
    have ctes : s.PlaceComplete .cteBody := Statement.placeComplete_of_nil
      (by rw [Statement.operandsAt, unnamed]; rfl)
    have values := Statement.placeComplete_of_nil noValues
    have rows := Statement.placeComplete_of_nil noRows
    apply ((held.restriction .filter rfl).map (" ".intercalate ·)).congr
    rw [without.allComplete_iff source]
    tauto

end Statement.HoldsDecided

end Parts

/-- A statement without an error renders exactly when all that is shown in it is complete. -/
theorem Placed.decidedBy_render (p : Pagination) {s : Statement} (placed : Placed s)
    (clean : s.firstError = none) : DecidedBy s.AllComplete (s.render p) := by
  induction s using Statement.nesting_induction with
  | step s ih =>
    have held : s.HoldsDecided p := by
      intro place t stored
      have hidden := placed.firstError_of_nested clean stored
      exact ⟨hidden, ih place t stored (placed.nested stored).1 hidden⟩
    have compatible := placed.compatible
    have bare : DecidedBy s.AllComplete (s.bareText p (s.parts p)) := by
      unfold Statement.bareText
      split
      next typed => exact held.selectText compatible typed
      next typed => exact held.insertText compatible clean typed
      next typed => exact held.updateText compatible clean typed
      next typed => exact held.deleteText compatible clean typed
      next untyped => exact held.verblessText compatible untyped
    rw [Statement.render_eq_text, Statement.text, clean]
    exact bare.map _

/-- A reachable statement without an error renders exactly when it and all statements shown in it
are complete; otherwise validation fails, and no other error is possible. -/
theorem Reachable.render_ok_iff {s : Statement} (reachable : Reachable s)
    (clean : s.firstError = none) (r : Renderer) :
    ((∃ sql, (r.render s).result = .ok sql) ↔ ∀ t, Statement.ShownIn t s → t.Complete) ∧
      ∀ e, (r.render s).result = .error e → ∃ reason, e = .validation reason := by
  rw [Renderer.result_render]
  have decided := reachable.placed.decidedBy_render r.pagination clean
  exact ⟨decided.isOk_iff, fun e failed => decided.validation_of_error failed⟩

/-- `UPDATE t SET a=(SELECT id FROM users)`. -/
def updateFromSelect : Statement :=
  ({} : Statement).run [.updateTable "t", .setColumn "a" (.nested
    (({} : Statement).run [.select [.sql "id"], .readFrom (.sql "users")]))]

theorem render_ok_iff_updateFromSelect :
    ((∃ sql, ((default : Renderer).render updateFromSelect).result = .ok sql) ↔
        ∀ t, Statement.ShownIn t updateFromSelect → t.Complete) ∧
      ∀ e, ((default : Renderer).render updateFromSelect).result = .error e →
        ∃ reason, e = .validation reason := by
  have inner : Reachable
      (({} : Statement).run [.select [.sql "id"], .readFrom (.sql "users")]) := by
    apply Reachable.start.run
    simp [Place.forall_iff, Call.operandsAt]
  have outer : Reachable updateFromSelect := by
    apply Reachable.start.run
    simp [Place.forall_iff, Call.operandsAt, inner]
  exact outer.render_ok_iff rfl default

end SqlBuilder
