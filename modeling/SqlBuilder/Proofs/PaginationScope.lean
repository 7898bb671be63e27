import SqlBuilder.Proofs.AnyDepth
import SqlBuilder.Proofs.RenderedParts

/-!
# What the pagination strategy decides

The renderer asks the strategy for one clause of each SELECT and puts it behind the other parts. It
looks at the answer nowhere else, so no strategy decides whether a statement renders, and strategies
that agree on the pages of a statement give it the same text. `AgreeIf` says both of one step under
two strategies; it goes through sequences and lists, and the theorem is by induction over nested
statements.
-/
namespace SqlBuilder

/-- Both outcomes are the same failure, or both are successes, of the same value under the
condition. -/
def AgreeIf {α : Type} (condition : Prop) : Except Error α → Except Error α → Prop
  | .ok value, .ok value' => condition → value = value'
  | .error e, .error e' => e = e'
  | _, _ => False

namespace AgreeIf

variable {α β : Type} {condition other : Prop} {outcome outcome' : Except Error α}

theorem refl (outcome : Except Error α) : AgreeIf condition outcome outcome := by
  cases outcome with
  | error e => exact rfl
  | ok value => exact fun _ => rfl

theorem pure {value value' : α} (same : condition → value = value') :
    AgreeIf condition (pure value : Except Error α) (pure value') := same

theorem mono (agree : AgreeIf condition outcome outcome') (implied : other → condition) :
    AgreeIf other outcome outcome' := by
  cases outcome <;> cases outcome'
  · exact agree
  · exact agree
  · exact agree
  · exact fun holds => agree (implied holds)

theorem bind {next next' : α → Except Error β} (first : AgreeIf condition outcome outcome')
    (later : ∀ value value', (condition → value = value') →
      AgreeIf condition (next value) (next' value')) :
    AgreeIf condition (outcome >>= next) (outcome' >>= next') := by
  cases outcome <;> cases outcome'
  · exact first
  · exact first.elim
  · exact first.elim
  · exact later _ _ first

theorem map (agree : AgreeIf condition outcome outcome') (f : α → β) :
    AgreeIf condition (f <$> outcome) (f <$> outcome') := by
  rw [← bind_pure_comp, ← bind_pure_comp]
  exact agree.bind fun _ _ same => .pure fun holds => congrArg f (same holds)

theorem mapM {f g : α → Except Error β} {items : List α}
    (agree : ∀ item ∈ items, AgreeIf condition (f item) (g item)) :
    AgreeIf condition (items.mapM f) (items.mapM g) := by
  induction items with
  | nil => exact refl _
  | cons item rest ih =>
    obtain ⟨first, later⟩ := List.forall_mem_cons.mp agree
    rw [List.mapM_cons, List.mapM_cons]
    refine first.bind fun _ _ same => (ih later).bind fun _ _ sameRest => .pure fun holds => ?_
    rw [same holds, sameRest holds]

theorem eq_of_holds (agree : AgreeIf condition outcome outcome') (holds : condition) :
    outcome = outcome' := by
  cases outcome <;> cases outcome'
  · exact congrArg _ agree
  · exact agree.elim
  · exact agree.elim
  · exact congrArg _ (agree holds)

theorem isOk_iff (agree : AgreeIf condition outcome outcome') :
    (∃ value, outcome = .ok value) ↔ ∃ value, outcome' = .ok value := by
  cases outcome <;> cases outcome'
  · simp
  · exact agree.elim
  · exact agree.elim
  · simp

theorem error_iff (agree : AgreeIf condition outcome outcome') (e : Error) :
    outcome = .error e ↔ outcome' = .error e := by
  cases outcome <;> cases outcome'
  · rw [show _ = _ from agree]
  · exact agree.elim
  · exact agree.elim
  · simp

end AgreeIf

/-- The strategies give the same clause for every SELECT in the statement, at any depth. An empty
clause is none. -/
def Statement.SamePages (p q : Pagination) (s : Statement) : Prop :=
  ∀ t : Statement, t.Within s → t.kind = some .select →
    (p.clause? t.rowLimit t.rowOffset).getD "" = (q.clause? t.rowLimit t.rowOffset).getD ""

theorem Statement.SamePages.nested {p q : Pagination} {s t : Statement} {place : Place}
    (same : s.SamePages p q) (stored : .nested t ∈ s.operandsAt place) : t.SamePages p q :=
  fun u inside => same u (.nested stored inside)

/-! ### Parts -/

section Parts

variable {p q : Pagination} {s : Statement} {condition : Prop}

/-- What the induction gives for the statements stored in one. -/
def Statement.HoldsAgreeing (p q : Pagination) (condition : Prop) (s : Statement) : Prop :=
  ∀ place t, .nested t ∈ s.operandsAt place → AgreeIf condition (t.render p) (t.render q)

namespace Statement.HoldsAgreeing

variable (held : s.HoldsAgreeing p q condition)
include held

theorem render {place : Place} {operand : Operand} (stored : operand ∈ s.operandsAt place) :
    AgreeIf condition (operand.render p) (operand.render q) := by
  cases operand with
  | sql text => exact .refl _
  | nested t => exact held place t stored

theorem renderValue {place : Place} {operand : Operand} (stored : operand ∈ s.operandsAt place) :
    AgreeIf condition (operand.renderValue p) (operand.renderValue q) := by
  cases operand with
  | sql text => exact .refl _
  | nested t =>
    rw [Operand.renderValue, Operand.renderValue, bind_pure_comp, bind_pure_comp]
    exact (held place t stored).map _

theorem ctes : AgreeIf condition (s.parts p).ctes (s.parts q).ctes := by
  refine .mapM fun cte member => ?_
  rw [Cte.render, Cte.render, bind_pure_comp, bind_pure_comp]
  exact (held .cteBody _ (Statement.mem_operandsAt_cteBody member)).map _

theorem selectList : AgreeIf condition (s.parts p).selectList (s.parts q).selectList :=
  .mapM fun operand (stored : operand ∈ s.operandsAt .selectList) => held.render stored

theorem source : AgreeIf condition (s.parts p).source (s.parts q).source := by
  rw [Statement.parts, Statement.parts]
  cases stored : s.source with
  | none => exact .refl _
  | some operand =>
    rw [Option.mapM_some, Option.mapM_some]
    exact (held.render (Statement.mem_operandsAt_source stored)).map some

theorem joinCondition {body : Option Operand}
    (stored : ∀ operand ∈ body, operand ∈ s.operandsAt .joinCondition) :
    AgreeIf condition (Operand.renderJoinCondition p body)
      (Operand.renderJoinCondition q body) := by
  cases body with
  | none => exact .refl _
  | some operand =>
    rw [Operand.renderJoinCondition, Operand.renderJoinCondition]
    split
    · exact .refl _
    · rw [bind_pure_comp, bind_pure_comp]
      exact (held.renderValue (stored operand rfl)).map some

theorem joins : AgreeIf condition (s.parts p).joins (s.parts q).joins := by
  refine .mapM fun join member => ?_
  have target := Statement.mem_operandsAt_joinTarget member
  have body := Statement.mem_operandsAt_joinCondition member
  refine (held.render target).bind fun _ _ sameTarget => ?_
  refine (held.joinCondition body).bind fun _ _ sameBody => .pure fun holds => ?_
  rw [sameTarget holds, sameBody holds]

/-- The conditions of either list. -/
theorem restriction (place : Place) {conditions : List Condition}
    (listed : s.operandsAt place = conditions.map (·.body)) :
    AgreeIf condition (conditions.mapM (Condition.render p))
      (conditions.mapM (Condition.render q)) := by
  refine .mapM fun element member => ?_
  have stored : element.body ∈ s.operandsAt place := by
    rw [listed]
    exact List.mem_map_of_mem member
  rw [Condition.render, Condition.render, bind_pure_comp, bind_pure_comp]
  exact (held.renderValue stored).map _

theorem values : AgreeIf condition (s.parts p).values (s.parts q).values :=
  .mapM fun _ stored => held.renderValue stored

theorem rows : AgreeIf condition (s.parts p).rows (s.parts q).rows := by
  rw [Statement.parts, Statement.parts]
  rcases inserted : s.payload with _ | values | pairs | t <;>
    rw [Payload.renderRows, Payload.renderRows]
  case some.rows =>
    exact held .insertedRows t (Statement.mem_operandsAt_insertedRows inserted)
  all_goals exact .refl _

theorem unionMembers : AgreeIf condition (s.parts p).unionMembers (s.parts q).unionMembers := by
  refine .mapM fun member inList => ?_
  rw [UnionMember.render, UnionMember.render, bind_pure_comp, bind_pure_comp]
  exact (held .unionMember _ (Statement.mem_operandsAt_unionMember inList)).map _

theorem groupText : AgreeIf condition (s.groupText (s.parts p).groupConditions)
    (s.groupText (s.parts q).groupConditions) := by
  unfold Statement.groupText
  split
  · exact .refl _
  · rw [bind_pure_comp, bind_pure_comp]
    exact (held.restriction .groupFilter rfl).map _

theorem tableText (kind : Kind) : AgreeIf condition (Statement.tableText kind (s.parts p))
    (Statement.tableText kind (s.parts q)) := by
  rw [Statement.tableText_parts, Statement.tableText_parts]
  cases stored : s.source with
  | none => exact .refl _
  | some operand => exact held.render (Statement.mem_operandsAt_source stored)

/-! ### Kinds of statements -/

/-- The page is the only part that the strategies give themselves. -/
theorem selectText (page : condition → (p.clause? s.rowLimit s.rowOffset).getD "" =
      (q.clause? s.rowLimit s.rowOffset).getD "") :
    AgreeIf condition (s.selectText p (s.parts p)) (s.selectText q (s.parts q)) := by
  refine held.ctes.bind fun _ _ ctes => held.selectList.bind fun _ _ items => ?_
  refine held.source.bind fun _ _ source => held.joins.bind fun _ _ joins => ?_
  refine (held.restriction .filter rfl).bind fun _ _ conditions => ?_
  refine held.groupText.bind fun _ _ groups => held.unionMembers.bind fun _ _ members => ?_
  refine .pure fun holds => ?_
  rw [ctes holds, items holds, source holds, joins holds, conditions holds, groups holds,
    members holds, page holds]

theorem insertedValuesText (columns : List String) (count : Nat) :
    AgreeIf condition (Statement.insertedValuesText columns count (s.parts p).values)
      (Statement.insertedValuesText columns count (s.parts q).values) := by
  rw [Statement.insertedValuesText_eq, Statement.insertedValuesText_eq]
  split
  · exact held.values.map _
  · exact .refl _

theorem insertedText :
    AgreeIf condition (s.insertedText (s.parts p)) (s.insertedText (s.parts q)) := by
  rw [Statement.insertedText, Statement.insertedText]
  rcases s.payload with _ | values | pairs | t <;> rcases s.columnList with _ | columns
  · exact .refl _
  · exact .refl _
  · exact .refl _
  · exact held.insertedValuesText columns values.length
  · exact held.insertedValuesText (pairs.map (·.1)) pairs.length
  · exact held.insertedValuesText columns pairs.length
  · exact held.rows
  · exact held.rows.map _

theorem insertText : AgreeIf condition (s.insertText (s.parts p)) (s.insertText (s.parts q)) := by
  refine held.ctes.bind fun _ _ ctes => (held.tableText .insert).bind fun _ _ table => ?_
  refine held.insertedText.bind fun _ _ inserted => .pure fun holds => ?_
  rw [ctes holds, table holds, inserted holds]

theorem updateText : AgreeIf condition (s.updateText (s.parts p)) (s.updateText (s.parts q)) := by
  refine (AgreeIf.refl s.updatedColumns).bind fun _ _ columns => ?_
  refine held.ctes.bind fun _ _ ctes => (held.tableText .update).bind fun _ _ table => ?_
  refine held.values.bind fun _ _ values => ?_
  refine (held.restriction .filter rfl).bind fun _ _ conditions => .pure fun holds => ?_
  rw [columns holds, ctes holds, table holds, values holds, conditions holds]

theorem deleteText : AgreeIf condition (s.deleteText (s.parts p)) (s.deleteText (s.parts q)) := by
  refine held.ctes.bind fun _ _ ctes => (held.tableText .delete).bind fun _ _ table => ?_
  refine (held.restriction .filter rfl).bind fun _ _ conditions => .pure fun holds => ?_
  rw [ctes holds, table holds, conditions holds]

theorem verblessText :
    AgreeIf condition (s.verblessText (s.parts p)) (s.verblessText (s.parts q)) := by
  unfold Statement.verblessText
  split
  · exact .refl _
  · exact (held.restriction .filter rfl).map _

theorem bareText (page : condition → s.kind = some .select →
      (p.clause? s.rowLimit s.rowOffset).getD "" = (q.clause? s.rowLimit s.rowOffset).getD "") :
    AgreeIf condition (s.bareText p (s.parts p)) (s.bareText q (s.parts q)) := by
  unfold Statement.bareText
  split
  next typed => exact held.selectText fun holds => page holds typed
  · exact held.insertText
  · exact held.updateText
  · exact held.deleteText
  · exact held.verblessText

end Statement.HoldsAgreeing

end Parts

/-! ### Statements -/

/-- Under two strategies a statement fails alike, and it has the same text if they agree on its
pages. -/
theorem Statement.agreeIf_render (p q : Pagination) (s : Statement) :
    AgreeIf (s.SamePages p q) (s.render p) (s.render q) := by
  induction s using Statement.nesting_induction with
  | step s ih =>
    have held : s.HoldsAgreeing p q (s.SamePages p q) :=
      fun place t stored => (ih place t stored).mono fun same => same.nested stored
    rw [render_eq_text, render_eq_text, text, text]
    split
    · exact .refl _
    · exact (held.bareText fun same typed => same s (.self s) typed).map _

/-- Without a limit and an offset both dialects give no clause. -/
theorem Statement.samePages_of_unpaged {s : Statement} (dialect dialect' : Dialect)
    (unpaged : ∀ t : Statement, t.Within s → t.kind = some .select →
      t.rowLimit = none ∧ t.rowOffset = 0) :
    s.SamePages dialect.pagination dialect'.pagination := by
  intro t inside typed
  obtain ⟨unlimited, fromStart⟩ := unpaged t inside typed
  rw [unlimited, fromStart, dialect.pagination_unpaged, dialect'.pagination_unpaged]

/-- Whether and why a statement fails to render does not depend on the renderer. Its text depends
only on the clauses that the strategy gives for the SELECTs in it: not on what is logged, and
without limits and offsets not on the dialect. -/
theorem Statement.render_decided_by_pages (s : Statement) (r r' : Renderer) :
    ((∃ sql, (r.render s).result = .ok sql) ↔ ∃ sql, (r'.render s).result = .ok sql) ∧
      (∀ e, (r.render s).result = .error e ↔ (r'.render s).result = .error e) ∧
      (s.SamePages r.pagination r'.pagination → (r.render s).result = (r'.render s).result) ∧
      (∀ settings, ({ r with settings := settings }.render s).result = (r.render s).result) ∧
      ((∀ t : Statement, t.Within s → t.kind = some .select →
          t.rowLimit = none ∧ t.rowOffset = 0) →
        ∀ settings settings', ((Renderer.ofSettings settings).render s).result =
          ((Renderer.ofSettings settings').render s).result) := by
  have agree := s.agreeIf_render r.pagination r'.pagination
  simp only [Renderer.result_render, implies_true, true_and]
  refine ⟨agree.isOk_iff, agree.error_iff, agree.eq_of_holds, ?_⟩
  intro unpaged settings settings'
  exact (s.agreeIf_render _ _).eq_of_holds (samePages_of_unpaged _ _ unpaged)

/-- `LIMIT n OFFSET m`, with an empty clause where there is neither. -/
def paddedPages : Pagination where
  clause? limit offset := some ((Pagination.limitOffset.clause? limit offset).getD "")

/-- A union with a page in its derived table and one in its member. -/
def pagedUnion : Statement where
  kind := some .select
  selectList := [.sql "a"]
  source := some (.nested {
    kind := some .select
    derived := true
    selectList := [.sql "a"]
    source := some (.sql "x")
    rowLimit := some 5 })
  unionMembers := [⟨{ kind := some .select, selectList := [.sql "b"], rowOffset := 2 }, true⟩]

def unpagedSelect : Statement where
  kind := some .select
  selectList := [.sql "a"]
  source := some (.sql "x")

/-- An INSERT of the rows of a SELECT without a page. -/
def copiedRows : Statement where
  kind := some .insert
  source := some (.sql "t")
  payload := some (.rows unpagedSelect)

theorem render_decided_by_pages_emptyClause :
    pagedUnion.SamePages .limitOffset paddedPages ∧
      (((default : Renderer).withPagination paddedPages).render pagedUnion).result =
        .ok "SELECT a FROM (SELECT a FROM x LIMIT 5) UNION ALL (SELECT b OFFSET 2)" ∧
      (∀ t : Statement, t.Within copiedRows → t.kind = some .select →
        t.rowLimit = none ∧ t.rowOffset = 0) ∧
      ((Renderer.ofDialect .sqlServer).render copiedRows).result =
        .ok "INSERT INTO t SELECT a FROM x" := by
  have same : pagedUnion.SamePages .limitOffset paddedPages := fun _ _ _ => rfl
  have inner : ∀ t : Statement, t.Within unpagedSelect → t.kind = some .select →
      t.rowLimit = none ∧ t.rowOffset = 0 := by
    rw [Statement.forall_within_iff, Place.forall_iff]
    simp [Statement.operandsAt, unpagedSelect]
  have unpaged : ∀ t : Statement, t.Within copiedRows → t.kind = some .select →
      t.rowLimit = none ∧ t.rowOffset = 0 := by
    rw [Statement.forall_within_iff, Place.forall_iff]
    simpa [Statement.operandsAt, copiedRows, Payload.values, Payload.rowSource?] using inner
  have decided (s : Statement) := s.render_decided_by_pages default
    ((default : Renderer).withPagination paddedPages)
  refine ⟨same, ?_, unpaged, ?_⟩
  · rw [← (decided pagedUnion).2.2.1 same]
    decide +kernel
  · rw [Renderer.ofDialect, (decided copiedRows).2.2.2.2 unpaged _ {}]
    decide +kernel

end SqlBuilder
