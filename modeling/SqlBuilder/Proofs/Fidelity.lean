import SqlBuilder.Proofs.IgnoredClauses
import SqlBuilder.Proofs.Occurrence
import SqlBuilder.Proofs.RenderedParts
import SqlBuilder.Proofs.SuppliedTexts

/-!
# Nothing is lost in rendering

The renderer of each kind looks at some of the clauses and ignores the others. By
`Statement.Compatible` the ignored ones are empty, so the texts of a statement are those of the
clauses its renderer writes, and each of these keeps the texts of its parts in their order. The
induction is over nested statements; a nested statement also shows its name where it is derived.
-/
namespace SqlBuilder

variable {p : Pagination}

namespace Statement

variable {s : Statement}

/-- The texts of a statement, then its name where it is derived. -/
def shownTexts (s : Statement) : List String :=
  s.texts ++ if s.derived then s.aliasName.toList else []

/-- The text of the statement, if it has one, holds all that the statement shows. -/
def Faithful (p : Pagination) (s : Statement) : Prop :=
  ∀ sql, s.render p = .ok sql → OccurInOrder s.shownTexts sql

/-- Every nested statement is faithful and marked as its place requires. -/
def HoldsFaithful (p : Pagination) (s : Statement) : Prop :=
  ∀ place t, .nested t ∈ s.operandsAt place →
    t.Compatible ∧ t.derived = place.derives ∧ t.Faithful p

theorem Faithful.of_derived (faithful : s.Faithful p) (derived : s.derived = true) {sql : String}
    (rendered : s.render p = .ok sql) : OccurInOrder (s.texts ++ s.aliasName.toList) sql := by
  have occur := faithful sql rendered
  rwa [shownTexts, if_pos derived] at occur

theorem Faithful.of_plain (faithful : s.Faithful p) (plain : s.derived = false) {sql : String}
    (rendered : s.render p = .ok sql) : OccurInOrder s.texts sql := by
  have occur := faithful sql rendered
  rwa [shownTexts, if_neg (by simp [plain]), List.append_nil] at occur

/-! ### Ignored clauses have no texts -/

/-- An empty payload and no column list have no texts. -/
theorem payloadTexts_eq_nil (unlisted : Clause.columnList.populated s = false)
    (unpaid : Clause.payload.populated s = false) :
    Payload.texts s.kind s.columnList s.payload = [] := by
  have noColumns : s.columnList = none := by simpa [Clause.populated] using unlisted
  rw [noColumns]
  rcases held : s.payload with _ | values | pairs | rows
  · rfl
  · obtain rfl : values = [] := by simpa [Clause.populated, held, Payload.isEmpty] using unpaid
    rfl
  · obtain rfl : pairs = [] := by simpa [Clause.populated, held, Payload.isEmpty] using unpaid
    rw [Payload.texts]
    split <;> rfl
  · simp [Clause.populated, held, Payload.isEmpty] at unpaid

theorem WithoutQuery.texts_eq (without : s.WithoutQuery) :
    s.texts = s.ctes.flatMap Cte.texts ++ Operand.derivedTextsOptional s.source ++
      Payload.texts s.kind s.columnList s.payload ++
      (s.conditions.flatMap fun condition => condition.body.texts) := by
  rw [Statement.texts_eq, without.selectList, without.sourceAlias, without.joins,
    without.groupColumns, without.unionMembers, without.orderTerms]
  simp

/-- A statement that renders without a verb has the texts of its conditions. -/
theorem texts_eq_conditions (s : Statement) (compatible : s.Compatible) (untyped : s.kind = none)
    (bare : s.strayClause? = none) :
    s.texts = s.conditions.flatMap fun condition => condition.body.texts := by
  obtain ⟨unnamed, unpopulated⟩ := (strayClause?_eq_none_iff untyped).mp bare
  obtain ⟨without, sourceless⟩ := compatible.withoutQuery_of_strayClause? untyped bare
  rw [without.texts_eq, unnamed, sourceless,
    payloadTexts_eq_nil (unpopulated .columnList (by decide) (by decide))
      (unpopulated .payload (by decide) (by decide))]
  rfl

end Statement

/-! ### The parts of a statement keep their texts -/

section Parts

variable {s : Statement}

theorem Operand.occurInOrder_render {operand : Operand} {text : String}
    (nested : ∀ t, operand = .nested t → t.derived = true ∧ t.Faithful p)
    (rendered : operand.render p = .ok text) : OccurInOrder operand.derivedTexts text := by
  cases operand with
  | sql given =>
    cases rendered
    exact .self _
  | nested t =>
    obtain ⟨derived, faithful⟩ := nested t rfl
    exact faithful.of_derived derived rendered

theorem Operand.occurInOrder_renderValue {operand : Operand} {text : String}
    (nested : ∀ t, operand = .nested t → t.derived = false ∧ t.Faithful p)
    (rendered : operand.renderValue p = .ok text) : OccurInOrder operand.texts text := by
  cases operand with
  | sql given =>
    cases rendered
    exact .self _
  | nested t =>
    obtain ⟨plain, faithful⟩ := nested t rfl
    simp only [Operand.renderValue, bind_eq_ok_iff, pure_eq_ok_iff] at rendered
    obtain ⟨inner, rendered, rfl⟩ := rendered
    exact Layout.occurInOrder_parenthesized (faithful.of_plain plain rendered)

/-- A condition on a join that is left out has no texts. -/
theorem Operand.occurInOrder_of_isEmpty {operand : Operand} (empty : operand.isEmpty = true)
    (compatible : ∀ t, operand = .nested t → t.Compatible) (sql : String) :
    OccurInOrder operand.texts sql := by
  cases operand with
  | sql text =>
    obtain rfl : text = "" := by simpa [Operand.isEmpty] using empty
    exact .of_empty (.self "") sql
  | nested t =>
    obtain ⟨untyped, unconditional, bare⟩ := Statement.isEmpty_iff.mp empty
    rw [Operand.texts, t.texts_eq_conditions (compatible t rfl) untyped bare, unconditional]
    trivial

/-- Every pair of a SET list holds its column and then its value. -/
theorem Payload.occurInOrder_assignments {pairs : List (String × Operand)} {texts : List String}
    (each : List.Forall₂ (fun operand text => OccurInOrder operand.texts text) (pairs.map (·.2))
      texts) :
    List.Forall₂ (fun pair text => OccurInOrder (Payload.assignedTexts pair) text) pairs
      (List.zipWith (fun column value => column ++ "=" ++ value) (pairs.map (·.1)) texts) := by
  induction pairs generalizing texts with
  | nil => exact .nil
  | cons pair rest ih =>
    cases each with
    | cons first later =>
      have assigned := ((OccurInOrder.self pair.1).extend "=").append first
      exact .cons assigned (ih later)

namespace Statement.HoldsFaithful

variable (held : s.HoldsFaithful p)
include held

theorem ctes {texts : List String} (rendered : (s.parts p).ctes = .ok texts) :
    List.Forall₂ (fun cte text => OccurInOrder (Cte.texts cte) text) s.ctes texts := by
  refine forall₂_of_mapM_eq_ok rendered fun cte member text rendered => ?_
  obtain ⟨_, plain, faithful⟩ := held _ _ (Statement.mem_operandsAt_cteBody member)
  simp only [Cte.render, bind_eq_ok_iff, pure_eq_ok_iff] at rendered
  obtain ⟨body, rendered, rfl⟩ := rendered
  exact Layout.occurInOrder_cte cte.name cte.columns (faithful.of_plain plain rendered)

theorem selectList {texts : List String} (rendered : (s.parts p).selectList = .ok texts) :
    List.Forall₂ (fun operand text => OccurInOrder operand.derivedTexts text) s.selectList
      texts := by
  refine forall₂_of_mapM_eq_ok rendered fun operand member text rendered => ?_
  refine Operand.occurInOrder_render ?_ rendered
  intro t same
  subst same
  exact (held .selectList t member).2

theorem source {text : Option String} (rendered : (s.parts p).source = .ok text) :
    OccurInOrder (Operand.derivedTextsOptional s.source) (text.getD "") := by
  rw [Statement.parts] at rendered
  cases stored : s.source with
  | none => trivial
  | some operand =>
    simp only [stored, Option.mapM_some, map_eq_ok_iff] at rendered
    obtain ⟨result, rendered, rfl⟩ := rendered
    refine Operand.occurInOrder_render ?_ rendered
    intro t same
    subst same
    exact (held .source t (Statement.mem_operandsAt_source stored)).2

theorem joins {texts : List String} (rendered : (s.parts p).joins = .ok texts) :
    List.Forall₂ (fun join text => OccurInOrder (Join.texts join) text) s.joins texts := by
  refine forall₂_of_mapM_eq_ok rendered fun join member text rendered => ?_
  simp only [Join.render, bind_eq_ok_iff, pure_eq_ok_iff] at rendered
  obtain ⟨target, renderedTarget, condition, renderedCondition, rfl⟩ := rendered
  have inTarget : OccurInOrder join.target.derivedTexts target := by
    refine Operand.occurInOrder_render ?_ renderedTarget
    intro t nested
    exact (held .joinTarget t (List.mem_map.mpr ⟨join, member, nested⟩)).2
  have inCondition : OccurInOrder (Operand.textsOptional join.condition) (condition.getD "") := by
    cases given : join.condition with
    | none => trivial
    | some operand =>
      have nested (t : Statement) (same : operand = .nested t) :
          t.Compatible ∧ t.derived = false ∧ t.Faithful p :=
        held .joinCondition t (Statement.mem_operandsAt_joinCondition member _ (same ▸ given))
      rw [given, Operand.renderJoinCondition] at renderedCondition
      split at renderedCondition
      next empty =>
        exact Operand.occurInOrder_of_isEmpty empty (fun t same => (nested t same).1) _
      next visible =>
        simp only [bind_eq_ok_iff, pure_eq_ok_iff] at renderedCondition
        obtain ⟨result, rendered, rfl⟩ := renderedCondition
        exact Operand.occurInOrder_renderValue (fun t same => (nested t same).2) rendered
  exact Layout.occurInOrder_join join.form inTarget inCondition

/-- The conditions of either list. -/
theorem restriction (place : Place) (plain : place.derives = false) {conditions : List Condition}
    (stored : s.operandsAt place = conditions.map (·.body)) {texts : List String}
    (rendered : conditions.mapM (Condition.render p) = .ok texts) :
    List.Forall₂ (fun condition text => OccurInOrder condition.body.texts text) conditions
      texts := by
  refine forall₂_of_mapM_eq_ok rendered fun condition member text rendered => ?_
  simp only [Condition.render, bind_eq_ok_iff, pure_eq_ok_iff] at rendered
  obtain ⟨body, rendered, rfl⟩ := rendered
  refine Layout.occurInOrder_condition _ _ (Operand.occurInOrder_renderValue ?_ rendered)
  intro t nested
  rw [← plain]
  exact (held place t (by rw [stored]; exact List.mem_map.mpr ⟨condition, member, nested⟩)).2

theorem values {texts : List String} (rendered : (s.parts p).values = .ok texts) :
    List.Forall₂ (fun operand text => OccurInOrder operand.texts text) (s.operandsAt .value)
      texts := by
  refine forall₂_of_mapM_eq_ok rendered fun operand member text rendered => ?_
  refine Operand.occurInOrder_renderValue ?_ rendered
  intro t same
  subst same
  exact (held .value t member).2

theorem unionMembers {texts : List String} (rendered : (s.parts p).unionMembers = .ok texts) :
    List.Forall₂ (fun member text => OccurInOrder member.statement.texts text) s.unionMembers
      texts := by
  refine forall₂_of_mapM_eq_ok rendered fun unionMember member text rendered => ?_
  obtain ⟨_, plain, faithful⟩ := held _ _ (Statement.mem_operandsAt_unionMember member)
  simp only [UnionMember.render, bind_eq_ok_iff, pure_eq_ok_iff] at rendered
  obtain ⟨text, rendered, rfl⟩ := rendered
  exact Layout.occurInOrder_unionMember _ _ (faithful.of_plain plain rendered)

theorem rows {t : Statement} {text : String} (inserted : s.payload = some (.rows t))
    (rendered : (s.parts p).rows = .ok text) : OccurInOrder t.texts text := by
  obtain ⟨_, plain, faithful⟩ := held _ _ (Statement.mem_operandsAt_insertedRows inserted)
  rw [Statement.parts, inserted] at rendered
  exact faithful.of_plain plain rendered

theorem withText {texts : List String} (rendered : (s.parts p).ctes = .ok texts) :
    OccurInOrder (s.ctes.flatMap Cte.texts) (s.withText texts) :=
  Layout.occurInOrder_clause _ ", " (held.ctes rendered)

theorem selectListText {texts : List String} (rendered : (s.parts p).selectList = .ok texts) :
    OccurInOrder (s.selectList.flatMap Operand.derivedTexts) (s.selectListText texts) := by
  have listed := OccurInOrder.intercalate_filter "," (held.selectList rendered)
  refine OccurInOrder.prepend ?_ _
  split
  next empty =>
    rw [Layout.commaList] at empty
    rw [empty] at listed
    exact listed.of_empty "*"
  next visible => exact listed

theorem fromText (compatible : s.Compatible) {text : Option String}
    (rendered : (s.parts p).source = .ok text) :
    OccurInOrder (Operand.derivedTextsOptional s.source ++ s.sourceAlias.toList)
      (s.fromText text) := by
  have inSource := held.source rendered
  cases text with
  | none =>
    have sourceless : s.source = none := by
      rw [Statement.parts] at rendered
      cases stored : s.source with
      | none => rfl
      | some operand => simp [stored, map_eq_ok_iff] at rendered
    cases named : s.sourceAlias with
    | none =>
      rw [Option.toList_none, List.append_nil]
      exact inSource
    | some name =>
      have hasSource := (compatible.aliased (by rw [named]; rfl)).1
      rw [sourceless] at hasSource
      cases hasSource
  | some source =>
    rw [Statement.fromText]
    apply (inSource.prepend "FROM ").append
    cases s.sourceAlias with
    | none => trivial
    | some name => exact (OccurInOrder.self name).prepend " "

theorem whereText {texts : List String} (rendered : (s.parts p).conditions = .ok texts) :
    OccurInOrder (s.conditions.flatMap fun condition => condition.body.texts)
      (Layout.clause "WHERE" " " texts) :=
  Layout.occurInOrder_clause _ " " (held.restriction .filter rfl rfl rendered)

theorem groupText {texts : List String}
    (rendered : s.groupText (s.parts p).groupConditions = .ok texts) :
    OccurInOrder (s.groupColumns ++ if s.groupColumns.isEmpty then []
      else s.groupConditions.flatMap fun condition => condition.body.texts)
      (Layout.spaced texts) := by
  rw [Statement.groupText] at rendered
  cases grouped : s.groupColumns with
  | nil => trivial
  | cons column rest =>
    simp only [grouped, bind_eq_ok_iff, pure_eq_ok_iff] at rendered
    obtain ⟨conditions, rendered, rfl⟩ := rendered
    have inColumns : OccurInOrder (column :: rest)
        ("GROUP BY " ++ Layout.commaList (column :: rest)) :=
      (OccurInOrder.names "," (column :: rest)).prepend _
    have inHaving := Layout.occurInOrder_clause "HAVING" " "
      (held.restriction .groupFilter rfl rfl rendered)
    exact Layout.spaced_append (Layout.spaced_singleton inColumns)
      (Layout.spaced_singleton inHaving)

theorem spacedJoins {texts : List String} (rendered : (s.parts p).joins = .ok texts) :
    OccurInOrder (s.joins.flatMap Join.texts) (Layout.spaced texts) :=
  .intercalate_filter " " (held.joins rendered)

theorem spacedUnionMembers {texts : List String}
    (rendered : (s.parts p).unionMembers = .ok texts) :
    OccurInOrder (s.unionMembers.flatMap fun member => member.statement.texts)
      (Layout.spaced texts) :=
  .intercalate_filter " " (held.unionMembers rendered)

/-- A SELECT writes every clause it can hold. -/
theorem selectText (compatible : s.Compatible) (typed : s.kind = some .select) {sql : String}
    (rendered : s.selectText p (s.parts p) = .ok sql) : OccurInOrder s.texts sql := by
  simp only [Statement.selectText, bind_eq_ok_iff, pure_eq_ok_iff] at rendered
  obtain ⟨ctes, renderedCtes, items, renderedItems, source, renderedSource, joins, renderedJoins,
    conditions, renderedConditions, groups, renderedGroups, members, renderedMembers, rfl⟩ :=
    rendered
  have inOrder : OccurInOrder (s.orderTerms.map (·.1))
      (Layout.clause "ORDER BY" "," (s.orderTerms.map Layout.orderTerm)) := by
    have each : List.Forall₂ (fun term text => OccurInOrder [term.1] text) s.orderTerms
        (s.orderTerms.map Layout.orderTerm) := by
      rw [List.forall₂_map_right_iff]
      refine List.forall₂_same.mpr fun term _ => ?_
      exact ((OccurInOrder.self term.1).extend " ").extend term.2.keyword
    rw [List.map_eq_flatMap]
    exact Layout.occurInOrder_clause _ "," each
  have unlisted := compatible.populated_eq_false typed .columnList (by decide) (by decide) rfl
  have unpaid := compatible.populated_eq_false typed .payload (by decide) (by decide) rfl
  rw [s.texts_eq, Statement.payloadTexts_eq_nil unlisted unpaid, List.append_nil]
  have inPage : OccurInOrder [] ((p.clause? s.rowLimit s.rowOffset).getD "") := trivial
  have header := Layout.spaced_append (Layout.spaced_singleton (held.withText renderedCtes))
    (Layout.spaced_append (Layout.spaced_singleton (held.selectListText renderedItems))
      (Layout.spaced_singleton (held.fromText compatible renderedSource)))
  have joined := Layout.spaced_append header (held.spacedJoins renderedJoins)
  have filtered := Layout.spaced_append joined
    (Layout.spaced_singleton (held.whereText renderedConditions))
  have grouped := Layout.spaced_append filtered (held.groupText renderedGroups)
  have united := Layout.spaced_append grouped (held.spacedUnionMembers renderedMembers)
  have whole := Layout.spaced_append united (Layout.spaced_append
    (Layout.spaced_singleton inOrder) (Layout.spaced_singleton inPage))
  simp only [List.append_assoc, List.append_nil] at whole ⊢
  exact whole

theorem tableText {kind : Kind} {table : String}
    (rendered : Statement.tableText kind (s.parts p) = .ok table) :
    OccurInOrder (Operand.derivedTextsOptional s.source) table := by
  simp only [Statement.tableText, bind_eq_ok_iff] at rendered
  obtain ⟨source, renderedSource, rendered⟩ := rendered
  cases source with
  | none => cases rendered
  | some text =>
    cases rendered
    exact held.source renderedSource

/-- Values follow the columns they go to. -/
theorem insertedValuesText {columns : List String} {count : Nat} {values : List Operand}
    {text : String} (stored : s.operandsAt .value = values)
    (rendered : Statement.insertedValuesText columns count (s.parts p).values = .ok text) :
    OccurInOrder (columns ++ values.flatMap Operand.texts) text := by
  rw [Statement.insertedValuesText_eq_ok_iff] at rendered
  obtain ⟨_, texts, rendered, rfl⟩ := rendered
  rw [← stored]
  exact Layout.occurInOrder_insertedValues columns (.intercalate "," (held.values rendered))

theorem insertedText (typed : s.kind = some .insert) {text : String}
    (rendered : s.insertedText (s.parts p) = .ok text) :
    OccurInOrder (Payload.texts s.kind s.columnList s.payload) text := by
  rw [Statement.insertedText] at rendered
  rw [typed]
  split at rendered
  next unpaid unlisted =>
    rw [unpaid, unlisted]
    trivial
  · cases rendered
  next t inserted unlisted =>
    rw [inserted, unlisted]
    exact held.rows inserted rendered
  next t columns inserted listed =>
    simp only [bind_eq_ok_iff, pure_eq_ok_iff] at rendered
    obtain ⟨text, rendered, rfl⟩ := rendered
    rw [inserted, listed]
    have inColumns := Layout.occurInOrder_parenthesized (.names "," columns)
    exact (inColumns.extend " ").append (held.rows inserted rendered)
  next pairs named unlisted =>
    rw [named, unlisted, Payload.texts, if_neg (by decide), Payload.pairTexts_eq_flatMap]
    exact held.insertedValuesText (by rw [Statement.operandsAt, named]; rfl) rendered
  next pairs columns named listed =>
    rw [named, listed, Payload.texts, if_neg (by decide), Payload.pairTexts_eq_flatMap]
    exact held.insertedValuesText (by rw [Statement.operandsAt, named]; rfl) rendered
  · cases rendered
  next values columns positional listed =>
    rw [positional, listed, Payload.texts, Operand.textsAll_eq_flatMap]
    exact held.insertedValuesText (by rw [Statement.operandsAt, positional]; rfl) rendered

theorem insertText (compatible : s.Compatible) (typed : s.kind = some .insert) {sql : String}
    (rendered : s.insertText (s.parts p) = .ok sql) : OccurInOrder s.texts sql := by
  simp only [Statement.insertText, bind_eq_ok_iff, pure_eq_ok_iff] at rendered
  obtain ⟨ctes, renderedCtes, table, renderedTable, inserted, renderedInserted, rfl⟩ := rendered
  have unconditional : s.conditions = [] := by
    simpa [Clause.populated] using
      compatible.populated_eq_false typed .filter (by decide) (by decide) rfl
  rw [(compatible.withoutQuery typed (by decide)).texts_eq, unconditional, List.flatMap_nil,
    List.append_nil]
  have header := Layout.spaced_append (Layout.spaced_singleton (held.withText renderedCtes))
    (Layout.spaced_singleton ((held.tableText renderedTable).prepend "INSERT INTO "))
  exact Layout.spaced_append header
    (Layout.spaced_singleton (held.insertedText typed renderedInserted))

theorem updateText (compatible : s.Compatible) (typed : s.kind = some .update) {sql : String}
    (rendered : s.updateText (s.parts p) = .ok sql) : OccurInOrder s.texts sql := by
  simp only [Statement.updateText, bind_eq_ok_iff, pure_eq_ok_iff] at rendered
  obtain ⟨columns, updated, ctes, renderedCtes, table, renderedTable, values, renderedValues,
    conditions, renderedConditions, rfl⟩ := rendered
  have unlisted : s.columnList = none := by
    simpa [Clause.populated] using
      compatible.populated_eq_false typed .columnList (by decide) (by decide) rfl
  have inSet : OccurInOrder (Payload.texts s.kind s.columnList s.payload)
      ("SET " ++ Layout.commaList
        (List.zipWith (fun column value => column ++ "=" ++ value) columns values)) := by
    obtain ⟨pairs, named, -, rfl⟩ := Statement.updatedColumns_eq_ok_iff.mp updated
    have each := held.values renderedValues
    rw [Statement.operandsAt, named] at each
    rw [typed, unlisted, named, Payload.texts, if_pos rfl, Payload.assignmentTexts_eq_flatMap]
    exact (OccurInOrder.intercalate "," (Payload.occurInOrder_assignments each)).prepend "SET "
  rw [(compatible.withoutQuery typed (by decide)).texts_eq]
  have header := Layout.spaced_append (Layout.spaced_singleton (held.withText renderedCtes))
    (Layout.spaced_singleton ((held.tableText renderedTable).prepend "UPDATE "))
  exact Layout.spaced_append (Layout.spaced_append header (Layout.spaced_singleton inSet))
    (Layout.spaced_singleton (held.whereText renderedConditions))

theorem deleteText (compatible : s.Compatible) (typed : s.kind = some .delete) {sql : String}
    (rendered : s.deleteText (s.parts p) = .ok sql) : OccurInOrder s.texts sql := by
  simp only [Statement.deleteText, bind_eq_ok_iff, pure_eq_ok_iff] at rendered
  obtain ⟨ctes, renderedCtes, table, renderedTable, conditions, renderedConditions, rfl⟩ :=
    rendered
  have unlisted := compatible.populated_eq_false typed .columnList (by decide) (by decide) rfl
  have unpaid := compatible.populated_eq_false typed .payload (by decide) (by decide) rfl
  rw [(compatible.withoutQuery typed (by decide)).texts_eq,
    Statement.payloadTexts_eq_nil unlisted unpaid, List.append_nil]
  have header := Layout.spaced_append (Layout.spaced_singleton (held.withText renderedCtes))
    (Layout.spaced_singleton ((held.tableText renderedTable).prepend "DELETE FROM "))
  exact Layout.spaced_append header (Layout.spaced_singleton (held.whereText renderedConditions))

theorem verblessText (compatible : s.Compatible) (untyped : s.kind = none) {sql : String}
    (rendered : s.verblessText (s.parts p) = .ok sql) : OccurInOrder s.texts sql := by
  unfold Statement.verblessText at rendered
  split at rendered
  · cases rendered
  next bare =>
    simp only [bind_eq_ok_iff, pure_eq_ok_iff] at rendered
    obtain ⟨conditions, rendered, rfl⟩ := rendered
    rw [s.texts_eq_conditions compatible untyped bare]
    exact .intercalate " " (held.restriction .filter rfl rfl rendered)

end Statement.HoldsFaithful

end Parts

/-- A statement renders faithfully when those nested in it do. -/
theorem Statement.Compatible.faithful {s : Statement} (compatible : s.Compatible)
    (held : s.HoldsFaithful p) : s.Faithful p := by
  intro sql rendered
  rw [Statement.render_eq_text, Statement.text] at rendered
  split at rendered
  · cases rendered
  · simp only [bind_eq_ok_iff, pure_eq_ok_iff] at rendered
    obtain ⟨bare, rendered, rfl⟩ := rendered
    have inBare : OccurInOrder s.texts bare := by
      unfold Statement.bareText at rendered
      split at rendered
      next typed => exact held.selectText compatible typed rendered
      next typed => exact held.insertText compatible typed rendered
      next typed => exact held.updateText compatible typed rendered
      next typed => exact held.deleteText compatible typed rendered
      next untyped => exact held.verblessText compatible untyped rendered
    unfold Statement.shownTexts
    split
    · exact Layout.occurInOrder_derived s.aliasName inBare
    · rw [List.append_nil]
      exact inBare

theorem Placed.faithful {s : Statement} (placed : Placed s) : s.Faithful p := by
  induction s using Statement.nesting_induction with
  | step s ih =>
    refine placed.compatible.faithful fun place t stored => ?_
    obtain ⟨built, marked⟩ := placed.nested stored
    exact ⟨built.compatible, marked, ih place t stored built⟩

/-- Rendering a reachable statement drops and alters none of its texts, at whatever depth. -/
theorem Reachable.texts_occurInOrder {s : Statement} (reachable : Reachable s) (r : Renderer)
    {sql : String} (rendered : (r.render s).result = .ok sql) : OccurInOrder s.texts sql := by
  rw [Renderer.result_render] at rendered
  exact reachable.placed.faithful.of_plain reachable.derived_eq_false rendered

theorem Reachable.texts_occurInOrder_derivedTable :
    OccurInOrder ["n", "id", "users", "age > 1", "r", "n"]
      "SELECT n FROM (SELECT id FROM users WHERE age > 1) AS r ORDER BY n DESC" := by
  have inner : Reachable (({} : Statement).run [.select [.sql "id"], .readFrom (.sql "users"),
      .restrict .rows .replacing false (.sql "age > 1")]) := by
    apply Reachable.start.run
    simp [Place.forall_iff, Call.operandsAt]
  have outer {t : Statement} (built : Reachable t) : Reachable (({} : Statement).run
      [.select [.sql "n"], .readFromAs (.nested t) "r", .orderBy [("n", .descending)]]) := by
    apply Reachable.start.run
    simp [Place.forall_iff, Call.operandsAt, built]
  exact (outer inner).texts_occurInOrder default rfl

end SqlBuilder
