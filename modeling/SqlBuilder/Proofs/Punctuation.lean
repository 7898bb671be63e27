import SqlBuilder.Proofs.LayoutLaws
import SqlBuilder.Proofs.RenderedParts
import SqlBuilder.Proofs.StoredShape

/-!
# Parentheses and spaces of rendered statements

Raw texts and names are written as they were given, so the text of a statement is as well formed as
those are. By `Layout.Keeps` this is one induction over nested statements for both properties; that
no clause is missing on one side of a space is what `Statement.Shaped` says of stored operands and
what a verb says of nested statements.
-/
namespace SqlBuilder

/-! ### Outcomes -/

/-- What the outcome yields, if anything, has the property. -/
def Yields {α : Type} (Result : α → Prop) (outcome : Except Error α) : Prop :=
  ∀ value, outcome = .ok value → Result value

namespace Yields

variable {α β : Type} {Result Other : α → Prop} {Next : β → Prop} {outcome : Except Error α}

theorem pure {value : α} (holds : Result value) : Yields Result (pure value) := by
  intro result same
  rwa [← pure_eq_ok_iff.mp same]

theorem error (e : Error) : Yields Result (.error e) := by
  intro result same
  cases same

theorem mono (yields : Yields Result outcome) (implied : ∀ value, Result value → Other value) :
    Yields Other outcome :=
  fun value same => implied value (yields value same)

theorem bind {next : α → Except Error β} (first : Yields Result outcome)
    (later : ∀ value, Result value → Yields Next (next value)) :
    Yields Next (outcome >>= next) := by
  intro result same
  obtain ⟨value, done, same⟩ := bind_eq_ok_iff.mp same
  exact later value (first value done) result same

theorem map {f : α → β} (yields : Yields Result outcome)
    (implied : ∀ value, Result value → Next (f value)) : Yields Next (f <$> outcome) := by
  rw [← bind_pure_comp]
  exact yields.bind fun value holds => .pure (implied value holds)

theorem mapM {f : α → Except Error β} {items : List α}
    (each : ∀ item ∈ items, Yields Next (f item)) :
    Yields (fun results => ∀ result ∈ results, Next result) (items.mapM f) := by
  induction items with
  | nil => exact pure (by simp)
  | cons item rest ih =>
    obtain ⟨first, later⟩ := List.forall_mem_cons.mp each
    rw [List.mapM_cons]
    refine first.bind fun result good => (ih later).bind fun results allGood => .pure ?_
    exact List.forall_mem_cons.mpr ⟨good, allGood⟩

end Yields

/-! ### Supplied texts -/

/-- Here a nested statement may consist of conditions alone. -/
def Place.takesConditions : Place → Bool
  | joinCondition | filter | groupFilter => true
  | _ => false

/-- The columns that a payload names. -/
def Payload.keys : Payload → List String
  | .named pairs => pairs.map (·.1)
  | .positional _ | .rows _ => []

namespace Statement

/-- What the caller supplied as text besides raw operands. -/
def names (s : Statement) : List String :=
  s.aliasName.toList ++ s.sourceAlias.toList ++ s.groupColumns ++ s.orderTerms.map (·.1) ++
    s.columnList.getD [] ++ (s.payload.map Payload.keys).getD [] ++
    s.ctes.flatMap fun cte => cte.name :: cte.columns.getD []

/-- The raw texts and the names in the statement, at any depth, are as they should be. -/
def SuppliesOnly (raw : Place → String → Prop) (name : String → Prop) (s : Statement) : Prop :=
  ∀ t : Statement, t.Within s →
    (∀ place text, .sql text ∈ t.operandsAt place → raw place text) ∧
      ∀ given ∈ t.names, name given

theorem suppliesOnly_iff {raw : Place → String → Prop} {name : String → Prop} {s : Statement} :
    s.SuppliesOnly raw name ↔
      ((∀ place text, .sql text ∈ s.operandsAt place → raw place text) ∧
        ∀ given ∈ s.names, name given) ∧
      ∀ place t, .nested t ∈ s.operandsAt place → t.SuppliesOnly raw name :=
  forall_within_iff

/-- What a statement stores is good, and not empty where it is written beside a space. -/
structure Furnished (strict : Prop) (Good : String → Prop) (s : Statement) : Prop where
  raw : ∀ place text, .sql text ∈ s.operandsAt place → Good text
  /-- An empty item of a select list is left out, and so is an empty condition of a join. -/
  visible : strict → ∀ place, place ≠ .selectList → place ≠ .joinCondition →
    .sql "" ∉ s.operandsAt place
  named : ∀ name ∈ s.names, Layout.Fits strict Good name
  typed : strict → ∀ place, place.takesConditions = false →
    ∀ t, .nested t ∈ s.operandsAt place → t.kind.isSome

/-- The text is good, and the text of a statement with a verb is not empty. -/
def Reads (strict : Prop) (Good : String → Prop) (p : Pagination) (s : Statement) : Prop :=
  Yields (fun sql => Good sql ∧ (s.kind.isSome → Layout.Fits strict Good sql)) (s.render p)

/-- What the induction gives for one statement. -/
structure Ready (strict : Prop) (Good : String → Prop) (p : Pagination) (s : Statement) : Prop
    extends s.Furnished strict Good where
  keeps : Layout.Keeps strict Good
  page : ∀ clause, p.clause? s.rowLimit s.rowOffset = some clause → Good clause
  nested : ∀ place t, .nested t ∈ s.operandsAt place → t.Reads strict Good p

namespace Ready

variable {strict : Prop} {Good : String → Prop} {p : Pagination} {s : Statement}
  (ready : s.Ready strict Good p)
include ready

/-! ### Operands -/

theorem render {place : Place} {operand : Operand} (stored : operand ∈ s.operandsAt place) :
    Yields Good (operand.render p) := by
  cases operand with
  | sql text => exact .pure (ready.raw place text stored)
  | nested t => exact (ready.nested place t stored).mono fun _ reads => reads.1

theorem fits_text {place : Place} (listed : place ≠ .selectList)
    (unjoined : place ≠ .joinCondition) {text : String}
    (stored : .sql text ∈ s.operandsAt place) : Layout.Fits strict Good text where
  good := ready.raw place text stored
  filled needed empty := ready.visible needed place listed unjoined (empty ▸ stored)

/-- Where a nested statement may have no parentheses around it, it has a verb. -/
theorem fits_nested {place : Place} (typed : place.takesConditions = false) {t : Statement}
    (stored : .nested t ∈ s.operandsAt place) :
    Yields (Layout.Fits strict Good) (t.render p) := by
  refine (ready.nested place t stored).mono fun sql reads => ⟨reads.1, fun needed => ?_⟩
  exact (reads.2 (ready.typed needed place typed t stored)).filled needed

theorem fits_render {place : Place} (listed : place ≠ .selectList)
    (typed : place.takesConditions = false) {operand : Operand}
    (stored : operand ∈ s.operandsAt place) :
    Yields (Layout.Fits strict Good) (operand.render p) := by
  cases operand with
  | sql text =>
    refine .pure (ready.fits_text listed ?_ stored)
    rintro rfl
    cases typed
  | nested t => exact ready.fits_nested typed stored

theorem fits_enclosed {place : Place} {t : Statement}
    (stored : .nested t ∈ s.operandsAt place) :
    Yields (Layout.Fits strict Good) (Operand.renderValue p (.nested t)) := by
  rw [Operand.renderValue, bind_pure_comp]
  exact (ready.nested place t stored).map fun _ reads => ready.keeps.fits_parenthesized reads.1

theorem fits_renderValue {place : Place} (listed : place ≠ .selectList)
    (unjoined : place ≠ .joinCondition) {operand : Operand}
    (stored : operand ∈ s.operandsAt place) :
    Yields (Layout.Fits strict Good) (operand.renderValue p) := by
  cases operand with
  | sql text => exact .pure (ready.fits_text listed unjoined stored)
  | nested t => exact ready.fits_enclosed stored

theorem joinCondition {condition : Option Operand}
    (stored : ∀ operand ∈ condition, operand ∈ s.operandsAt .joinCondition) :
    Yields (fun text => ∀ given ∈ text, Layout.Fits strict Good given)
      (Operand.renderJoinCondition p condition) := by
  cases condition with
  | none => exact .pure (by simp)
  | some operand =>
    unfold Operand.renderJoinCondition
    split
    next => exact .pure (by simp)
    next filled =>
      have shown : Yields (Layout.Fits strict Good) (operand.renderValue p) := by
        cases operand with
        | sql text =>
          refine .pure ⟨ready.raw .joinCondition text (stored _ rfl), fun _ empty => filled ?_⟩
          simp [Operand.isEmpty, empty]
        | nested t => exact ready.fits_enclosed (stored _ rfl)
      rw [bind_pure_comp]
      exact shown.map (by simp)

/-! ### Parts -/

theorem ctes : Yields (fun texts => ∀ text ∈ texts, Layout.Fits strict Good text)
    (s.parts p).ctes := by
  refine .mapM fun cte member => ?_
  have given (name : String) (listed : name ∈ cte.name :: cte.columns.getD []) :
      Layout.Fits strict Good name := by
    refine ready.named name ?_
    rw [names]
    exact List.mem_append_right _ (List.mem_flatMap.mpr ⟨cte, member, listed⟩)
  rw [Cte.render, bind_pure_comp]
  refine (ready.nested _ _ (mem_operandsAt_cteBody member)).map fun body reads => ?_
  refine ready.keeps.cte (given _ List.mem_cons_self) ?_ reads.1
  intro columns listed column inColumns
  refine given column (List.mem_cons_of_mem _ ?_)
  rw [listed]
  exact inColumns

theorem selectList : Yields (fun texts => ∀ text ∈ texts, Good text) (s.parts p).selectList :=
  .mapM fun operand (stored : operand ∈ s.operandsAt .selectList) => ready.render stored

theorem source : Yields (fun text => ∀ given ∈ text, Layout.Fits strict Good given)
    (s.parts p).source := by
  rw [parts]
  cases stored : s.source with
  | none => exact .pure (by simp)
  | some operand =>
    dsimp only
    rw [Option.mapM_some]
    exact (ready.fits_render (by decide) rfl (mem_operandsAt_source stored)).map (by simp)

theorem joins : Yields (fun texts => ∀ text ∈ texts, Good text) (s.parts p).joins := by
  refine .mapM fun join member => ?_
  have target := mem_operandsAt_joinTarget member
  have body := mem_operandsAt_joinCondition member
  refine (ready.fits_render (by decide) rfl target).bind fun _ fits => ?_
  exact (ready.joinCondition body).bind fun _ given => .pure (ready.keeps.join join.form fits given)

/-- The conditions of either list. -/
theorem restriction (place : Place) (listed : place ≠ .selectList)
    (unjoined : place ≠ .joinCondition) {conditions : List Condition}
    (bodies : s.operandsAt place = conditions.map (·.body)) :
    Yields (fun texts => ∀ text ∈ texts, Layout.Fits strict Good text)
      (conditions.mapM (Condition.render p)) := by
  refine .mapM fun condition member => ?_
  have stored : condition.body ∈ s.operandsAt place := by
    rw [bodies]
    exact List.mem_map_of_mem member
  rw [Condition.render, bind_pure_comp]
  exact (ready.fits_renderValue listed unjoined stored).map fun _ fits =>
    ready.keeps.condition _ _ fits

theorem values : Yields (fun texts => ∀ text ∈ texts, Layout.Fits strict Good text)
    (s.parts p).values :=
  .mapM fun _ stored => ready.fits_renderValue (by decide) (by decide) stored

theorem rows {t : Statement} (inserted : s.payload = some (.rows t)) :
    Yields (Layout.Fits strict Good) (s.parts p).rows := by
  rw [parts, inserted]
  exact ready.fits_nested rfl (mem_operandsAt_insertedRows inserted)

theorem unionMembers : Yields (fun texts => ∀ text ∈ texts, Good text)
    (s.parts p).unionMembers := by
  refine .mapM fun member inList => ?_
  rw [UnionMember.render, bind_pure_comp]
  exact (ready.fits_nested rfl (mem_operandsAt_unionMember inList)).map fun _ fits =>
    ready.keeps.unionMember _ _ fits

/-! ### Clauses -/

theorem withText {texts : List String} (each : ∀ text ∈ texts, Layout.Fits strict Good text) :
    Good (s.withText texts) := by
  unfold Statement.withText
  split
  · exact ready.keeps.clause "WITH RECURSIVE" ready.keeps.glues_commaSpace each
  · exact ready.keeps.clause "WITH" ready.keeps.glues_commaSpace each

theorem selectListText {texts : List String} (each : ∀ text ∈ texts, Good text) :
    Layout.Fits strict Good (s.selectListText texts) := by
  have listed : Layout.Fits strict Good
      (let list := Layout.commaList (texts.filter (· ≠ ""))
       if list = "" then "*" else list) := by
    dsimp only
    split
    · exact ready.keeps.word "*"
    · next filled =>
      exact ⟨ready.keeps.commaList (Layout.fits_of_mem_filter each), fun _ => filled⟩
  unfold Statement.selectListText
  split
  · exact ready.keeps.fits_spaced (ready.keeps.word "SELECT DISTINCT") listed
  · exact ready.keeps.fits_spaced (ready.keeps.word "SELECT") listed

theorem fromText {text : Option String} (each : ∀ given ∈ text, Layout.Fits strict Good given) :
    Good (s.fromText text) := by
  cases text with
  | none => exact ready.keeps.empty
  | some source =>
    have written := ready.keeps.fits_spaced (ready.keeps.word "FROM") (each source rfl)
    unfold Statement.fromText
    cases named : s.sourceAlias with
    | none =>
      dsimp only
      rw [String.append_empty]
      exact written.good
    | some name =>
      have given : name ∈ s.names := by simp [names, named]
      exact (ready.keeps.fits_trailing written (ready.named name given)).good

theorem whereText {texts : List String} (each : ∀ text ∈ texts, Layout.Fits strict Good text) :
    Good (Layout.clause "WHERE" " " texts) :=
  ready.keeps.clause "WHERE" ready.keeps.fits_spaced each

theorem groupText : Yields (fun texts => ∀ text ∈ texts, Good text)
    (s.groupText (s.parts p).groupConditions) := by
  unfold Statement.groupText
  split
  · exact .pure (by simp)
  · next columns filled =>
    have listed : Layout.Fits strict Good (Layout.commaList s.groupColumns) := by
      refine Layout.fits_intercalate ready.keeps.glues_comma filled fun column member => ?_
      exact ready.named column (by simp [names, member])
    have grouped := ready.keeps.fits_spaced (ready.keeps.word "GROUP BY") listed
    rw [bind_pure_comp]
    refine (ready.restriction .groupFilter (by decide) (by decide) rfl).map fun texts each => ?_
    have having := ready.keeps.clause "HAVING" ready.keeps.fits_spaced each
    simpa using And.intro grouped.good having

theorem orderText : Good (Layout.clause "ORDER BY" "," (s.orderTerms.map Layout.orderTerm)) := by
  refine ready.keeps.clause "ORDER BY" ready.keeps.glues_comma fun text member => ?_
  obtain ⟨term, inTerms, rfl⟩ := List.mem_map.mp member
  refine ready.keeps.orderTerm (ready.named term.1 ?_)
  have listed : term.1 ∈ s.orderTerms.map (·.1) := List.mem_map_of_mem inTerms
  simp [names, listed]

theorem pageText : Good ((p.clause? s.rowLimit s.rowOffset).getD "") := by
  cases given : p.clause? s.rowLimit s.rowOffset with
  | none => exact ready.keeps.empty
  | some clause => exact ready.page clause given

theorem tableText (kind : Kind) :
    Yields (Layout.Fits strict Good) (Statement.tableText kind (s.parts p)) := by
  rw [tableText_parts]
  cases stored : s.source with
  | none => exact .error _
  | some operand =>
    exact ready.fits_render (by decide) rfl (mem_operandsAt_source stored)

/-! ### Kinds of statements -/

theorem selectText : Yields (Layout.Fits strict Good) (s.selectText p (s.parts p)) := by
  refine ready.ctes.bind fun ctes ctesFit => ready.selectList.bind fun items itemsGood => ?_
  refine ready.source.bind fun source sourceFits => ready.joins.bind fun joins joinsGood => ?_
  refine (ready.restriction .filter (by decide) (by decide) rfl).bind fun conditions filters => ?_
  refine ready.groupText.bind fun groups groupsGood => ?_
  refine ready.unionMembers.bind fun members membersGood => .pure ?_
  have listed := ready.selectListText itemsGood
  refine ready.keeps.fits_spacedList ?_ ⟨_, by simp, listed⟩
  simp only [List.forall_mem_append, List.forall_mem_cons, List.not_mem_nil, false_implies,
    implies_true, and_true]
  exact ⟨⟨⟨⟨⟨⟨ready.withText ctesFit, listed.good, ready.fromText sourceFits⟩, joinsGood⟩,
    ready.whereText filters⟩, groupsGood⟩, membersGood⟩, ready.orderText, ready.pageText⟩

theorem fits_keys {pairs : List (String × Operand)} (held : s.payload = some (.named pairs)) :
    ∀ column ∈ pairs.map (·.1), Layout.Fits strict Good column := by
  intro column member
  refine ready.named column ?_
  simp only [names, List.mem_append, held, Option.map_some, Option.getD_some, Payload.keys]
  exact .inl (.inr member)

theorem insertedValuesText {columns : List String} (count : Nat)
    (each : ∀ column ∈ columns, Layout.Fits strict Good column) :
    Yields (Layout.Fits strict Good)
      (Statement.insertedValuesText columns count (s.parts p).values) := by
  rw [Statement.insertedValuesText_eq]
  split
  · exact ready.values.map fun _ given => ready.keeps.insertedValues each given
  · exact .error _

theorem insertedText : Yields Good (s.insertedText (s.parts p)) := by
  have columnsFit (columns : List String) (listed : s.columnList = some columns) :
      ∀ column ∈ columns, Layout.Fits strict Good column :=
    fun column member => ready.named column (by simp [names, listed, member])
  unfold Statement.insertedText
  split
  · exact .pure (ready.keeps.word "DEFAULT VALUES").good
  · exact .error _
  · next t held _ => exact (ready.rows held).mono fun _ fits => fits.good
  · next t columns held listed =>
    refine (ready.rows held).map fun _ fits => ?_
    have enclosed := ready.keeps.fits_parenthesized
      (ready.keeps.commaList (columnsFit columns listed))
    exact (ready.keeps.fits_spaced enclosed fits).good
  · next pairs held _ =>
    exact (ready.insertedValuesText _ (ready.fits_keys held)).mono fun _ fits => fits.good
  · next pairs columns _ listed =>
    exact (ready.insertedValuesText _ (columnsFit columns listed)).mono fun _ fits => fits.good
  · exact .error _
  · next values columns _ listed =>
    exact (ready.insertedValuesText _ (columnsFit columns listed)).mono fun _ fits => fits.good

theorem insertText : Yields (Layout.Fits strict Good) (s.insertText (s.parts p)) := by
  refine ready.ctes.bind fun ctes ctesFit => (ready.tableText .insert).bind fun table fits => ?_
  refine ready.insertedText.bind fun inserted good => .pure ?_
  have aimed := ready.keeps.fits_spaced (ready.keeps.word "INSERT INTO") fits
  refine ready.keeps.fits_spacedList ?_ ⟨_, by simp, aimed⟩
  simpa using ⟨ready.withText ctesFit, aimed.good, good⟩

theorem deleteText : Yields (Layout.Fits strict Good) (s.deleteText (s.parts p)) := by
  refine ready.ctes.bind fun ctes ctesFit => (ready.tableText .delete).bind fun table fits => ?_
  refine (ready.restriction .filter (by decide) (by decide) rfl).bind fun _ filters => .pure ?_
  have aimed := ready.keeps.fits_spaced (ready.keeps.word "DELETE FROM") fits
  refine ready.keeps.fits_spacedList ?_ ⟨_, by simp, aimed⟩
  simpa using ⟨ready.withText ctesFit, aimed.good, ready.whereText filters⟩

/-- An UPDATE sets at least one column. -/
theorem assignments {pairs : List (String × Operand)} (held : s.payload = some (.named pairs))
    (filled : pairs ≠ []) :
    Yields (fun values => Layout.Fits strict Good (Layout.commaList
        (List.zipWith (fun column value => column ++ "=" ++ value) (pairs.map (·.1)) values)))
      (s.parts p).values := by
  intro values rendered
  have same : values.length = pairs.length := by
    have sideBySide := forall₂_of_mapM_eq_ok rendered fun _ _ _ _ => trivial
    simpa [operandsAt, held, Payload.values] using sideBySide.length_eq.symm
  refine Layout.fits_intercalate ready.keeps.glues_comma ?_ fun text member => ?_
  · rw [Ne, List.zipWith_eq_nil_iff, ← List.length_eq_zero_iff, ← List.length_eq_zero_iff, same]
    simpa using filled
  · rw [← List.map_uncurry_zip_eq_zipWith] at member
    obtain ⟨⟨column, value⟩, paired, rfl⟩ := List.mem_map.mp member
    obtain ⟨inColumns, inValues⟩ := List.of_mem_zip paired
    have column := (ready.fits_keys held column inColumns).good
    have equation := ready.keeps.append column (ready.keeps.word "=").good
    exact ready.keeps.fits_append equation (ready.values values rendered value inValues)

theorem updateText : Yields (Layout.Fits strict Good) (s.updateText (s.parts p)) := by
  have named : Yields (fun columns => ∃ pairs, s.payload = some (.named pairs) ∧ pairs ≠ [] ∧
      pairs.map (·.1) = columns) s.updatedColumns := fun _ => updatedColumns_eq_ok_iff.mp
  refine named.bind fun columns ⟨pairs, held, filled, same⟩ => ?_
  subst same
  refine ready.ctes.bind fun ctes ctesFit => (ready.tableText .update).bind fun table fits => ?_
  refine (ready.assignments held filled).bind fun values valuesFit => ?_
  refine (ready.restriction .filter (by decide) (by decide) rfl).bind fun _ filters => .pure ?_
  have aimed := ready.keeps.fits_spaced (ready.keeps.word "UPDATE") fits
  have setting := ready.keeps.fits_spaced (ready.keeps.word "SET") valuesFit
  refine ready.keeps.fits_spacedList ?_ ⟨_, by simp, aimed⟩
  simpa using ⟨ready.withText ctesFit, aimed.good, setting.good, ready.whereText filters⟩

theorem verblessText : Yields Good (s.verblessText (s.parts p)) := by
  unfold Statement.verblessText
  split
  · exact .error _
  · exact (ready.restriction .filter (by decide) (by decide) rfl).map fun _ each =>
      ready.keeps.intercalate ready.keeps.fits_spaced each

theorem bareText :
    Yields (fun sql => Good sql ∧ (s.kind.isSome → Layout.Fits strict Good sql))
      (s.bareText p (s.parts p)) := by
  unfold Statement.bareText
  split
  · exact ready.selectText.mono fun _ fits => ⟨fits.good, fun _ => fits⟩
  · exact ready.insertText.mono fun _ fits => ⟨fits.good, fun _ => fits⟩
  · exact ready.updateText.mono fun _ fits => ⟨fits.good, fun _ => fits⟩
  · exact ready.deleteText.mono fun _ fits => ⟨fits.good, fun _ => fits⟩
  · next untyped => exact ready.verblessText.mono fun _ good => ⟨good, by simp [untyped]⟩

theorem reads : s.Reads strict Good p := by
  rw [Reads, render_eq_text, text]
  split
  · exact .error _
  · refine ready.bareText.bind fun bare written => .pure ?_
    split
    · have named : ∀ name ∈ s.aliasName, Layout.Fits strict Good name :=
        fun name given => ready.named name (by simp [names, Option.mem_def.mp given])
      have fits := ready.keeps.derived written.1 named
      exact ⟨fits.good, fun _ => fits⟩
    · exact written

end Ready

/-- If all texts in a statement and all pages are good, so is its text. -/
theorem reads_of_furnished {strict : Prop} {Good : String → Prop} {p : Pagination}
    (keeps : Layout.Keeps strict Good)
    (pages : ∀ limit offset clause, p.clause? limit offset = some clause → Good clause)
    (s : Statement) (furnished : ∀ t : Statement, t.Within s → t.Furnished strict Good) :
    s.Reads strict Good p := by
  induction s using nesting_induction with
  | step s ih =>
    have ready : s.Ready strict Good p := {
      toFurnished := furnished s (.self s)
      keeps := keeps
      page := pages s.rowLimit s.rowOffset
      nested := fun place t stored =>
        ih place t stored fun u inside => furnished u (.nested stored inside) }
    exact ready.reads

/-! ### Parentheses -/

/-- Rendering keeps parentheses balanced, whatever the statement and the renderer. -/
theorem balanced_render {s : Statement} {r : Renderer} {sql : String}
    (supplied : s.SuppliesOnly (fun _ => Text.Balanced) Text.Balanced)
    (pages : ∀ limit offset clause,
      r.pagination.clause? limit offset = some clause → Text.Balanced clause)
    (rendered : (r.render s).result = .ok sql) : Text.Balanced sql := by
  have furnished (t : Statement) (inside : t.Within s) : t.Furnished False Text.Balanced := {
    raw := (supplied t inside).1
    visible := False.elim
    named := fun name given => ⟨(supplied t inside).2 name given, False.elim⟩
    typed := False.elim }
  rw [Renderer.result_render] at rendered
  exact (reads_of_furnished Layout.keeps_balanced pages s furnished sql rendered).1

end Statement

/-- A derived table with a page. -/
def firstRows : Statement where
  kind := some .select
  derived := true
  aliasName := some "s"
  selectList := [.sql "a"]
  source := some (.sql "x")
  rowLimit := some 5

def firstRowsCount : Statement where
  kind := some .select
  selectList := [.sql "count(*)"]
  source := some (.nested firstRows)

/-- An INSERT of a function call and that count. -/
def countedRows : Statement where
  kind := some .insert
  source := some (.sql "t")
  columnList := some ["a", "b"]
  payload := some (.positional [.sql "f(1)", .nested firstRowsCount])

theorem balanced_render_countedRows :
    countedRows.SuppliesOnly (fun _ => Text.Balanced) Text.Balanced ∧
      ((default : Renderer).render countedRows).result = .ok
        "INSERT INTO t (a,b) VALUES (f(1),(SELECT count(*) FROM (SELECT a FROM x LIMIT 5) AS s))" ∧
      Text.Balanced ("INSERT INTO t (a,b) VALUES (f(1)," ++
        "(SELECT count(*) FROM (SELECT a FROM x LIMIT 5) AS s))") := by
  have words : ∀ text ∈ ["a", "b", "f(1)", "s", "t", "x", "count(*)"], Text.Balanced text := by
    decide
  simp only [List.forall_mem_cons] at words
  have rows : firstRows.SuppliesOnly (fun _ => Text.Balanced) Text.Balanced := by
    rw [Statement.suppliesOnly_iff]
    simp [Statement.operandsAt, Statement.names, Place.forall_iff, firstRows, words]
  have count : firstRowsCount.SuppliesOnly (fun _ => Text.Balanced) Text.Balanced := by
    rw [Statement.suppliesOnly_iff]
    simp [Statement.operandsAt, Statement.names, Place.forall_iff, firstRowsCount, words, rows]
  have supplied : countedRows.SuppliesOnly (fun _ => Text.Balanced) Text.Balanced := by
    rw [Statement.suppliesOnly_iff]
    simp [Statement.operandsAt, Statement.names, Place.forall_iff, Payload.values, Payload.keys,
      Payload.rowSource?, countedRows, words, count]
  have pages (limit : Option UInt64) (offset : UInt64) (clause : String)
      (given : (default : Renderer).pagination.clause? limit offset = some clause) :
      Text.Balanced clause :=
    Layout.keeps_balanced.page .standard given
  exact ⟨supplied, rfl, Statement.balanced_render supplied pages rfl⟩

/-! ### Spaces -/

namespace Statement

theorem Shaped.typed_of_takesConditions {s t : Statement} (shaped : s.Shaped) {place : Place}
    (typed : place.takesConditions = false) (stored : .nested t ∈ s.operandsAt place) :
    t.kind.isSome := by
  cases place with
  | joinCondition | filter | groupFilter => cases typed
  | insertedRows | unionMember =>
    rw [shaped.selects _ (by simp) t stored]
    rfl
  | _ => exact shaped.typed _ (by simp) t stored

end Statement

/-- A tight text, and not an empty one unless it is an item of a select list or a condition. -/
def Place.TakesTight (place : Place) (text : String) : Prop :=
  Text.Tight text ∧ (text = "" → place = .selectList ∨ place.takesConditions = true)

def Text.TightName (name : String) : Prop := Text.Tight name ∧ name ≠ ""

/-- The text of a reachable statement has no stray spaces, nor has that of any statement in it. -/
theorem Reachable.tight_render {s t : Statement} {r : Renderer} {sql : String}
    (reachable : Reachable s) (supplied : s.SuppliesOnly Place.TakesTight Text.TightName)
    (pages : ∀ limit offset clause,
      r.pagination.clause? limit offset = some clause → Text.Tight clause)
    (inside : t.Within s) (rendered : (r.render t).result = .ok sql) : Text.Tight sql := by
  have furnished (u : Statement) (deeper : u.Within t) : u.Furnished True Text.Tight := by
    have shaped := (reachable.placed.within (deeper.trans inside)).shaped
    obtain ⟨raw, names⟩ := supplied u (deeper.trans inside)
    refine ⟨fun place text stored => (raw place text stored).1, ?_, ?_, ?_⟩
    · intro _ place listed unjoined stored
      cases place with
      | selectList => exact listed rfl
      | joinCondition => exact unjoined rfl
      | filter => exact shaped.visible .rows stored
      | groupFilter => exact shaped.visible .groups stored
      | _ => simpa [Place.takesConditions] using (raw _ "" stored).2 rfl
    · exact fun name given => ⟨(names name given).1, fun _ => (names name given).2⟩
    · exact fun _ place typed v stored => shaped.typed_of_takesConditions typed stored
  rw [Renderer.result_render] at rendered
  exact (Statement.reads_of_furnished Layout.keeps_tight pages t furnished sql rendered).1

/-- A SELECT with nothing but an empty item, a source and a page. -/
def pagedSource : Statement :=
  ({} : Statement).run [.select [.sql ""], .readFrom (.sql "x"),
    .restrict .rows .replacing false (.sql ""), .limit 5]

/-- Clauses that are present, absent and empty, around that SELECT. -/
def sparseQuery : Statement :=
  ({} : Statement).run [.withCte "n" (some []) true pagedSource, .select [.sql "", .sql "b"],
    .readFromAs (.sql "y") "s", .join .left (.sql "z") (some (.sql "")),
    .restrict .rows .replacing true (.nested pagedSource), .restrictAll .groups [.sql ""],
    .orderBy [], .union true pagedSource]

theorem tight_render_sparseQuery :
    Reachable sparseQuery ∧ sparseQuery.SuppliesOnly Place.TakesTight Text.TightName ∧
      ((default : Renderer).render sparseQuery).result = .ok
        ("WITH RECURSIVE n () AS (SELECT * FROM x LIMIT 5) SELECT b FROM y s LEFT JOIN z " ++
          "WHERE NOT (SELECT * FROM x LIMIT 5) UNION ALL (SELECT * FROM x LIMIT 5)") ∧
      Text.Tight
        ("WITH RECURSIVE n () AS (SELECT * FROM x LIMIT 5) SELECT b FROM y s LEFT JOIN z " ++
          "WHERE NOT (SELECT * FROM x LIMIT 5) UNION ALL (SELECT * FROM x LIMIT 5)") := by
  have inner : Reachable pagedSource := by
    apply Reachable.start.run_of_offers
    simp
  have outer : Reachable sparseQuery := by
    apply Reachable.start.run_of_offers
    simp [or_imp, forall_and, inner]
  have words : ∀ text ∈ ["", "b", "n", "s", "x", "y", "z"], Text.Tight text := by decide
  simp only [List.forall_mem_cons] at words
  have paged : pagedSource.SuppliesOnly Place.TakesTight Text.TightName := by
    have built : pagedSource = {
        kind := some .select
        selectList := [.sql ""]
        source := some (.sql "x")
        rowLimit := some 5 } := rfl
    rw [Statement.suppliesOnly_iff, built]
    simp [Statement.operandsAt, Statement.names, Place.forall_iff, Place.TakesTight, words]
  have supplied : sparseQuery.SuppliesOnly Place.TakesTight Text.TightName := by
    have built : sparseQuery = {
        kind := some .select
        selectList := [.sql "", .sql "b"]
        source := some (.sql "y")
        sourceAlias := some "s"
        joins := [⟨.left, .sql "z", some (.sql "")⟩]
        conditions := [⟨none, some .not, .nested pagedSource⟩]
        unionMembers := [⟨pagedSource, true⟩]
        ctes := [⟨"n", some [], pagedSource⟩]
        recursive := true } := rfl
    rw [Statement.suppliesOnly_iff, built]
    simp [Statement.operandsAt, Statement.names, Place.forall_iff, Place.TakesTight,
      Place.takesConditions, Text.TightName, words, paged]
  have pages (limit : Option UInt64) (offset : UInt64) (clause : String)
      (given : (default : Renderer).pagination.clause? limit offset = some clause) :
      Text.Tight clause :=
    Layout.keeps_tight.page .standard given
  exact ⟨outer, supplied, rfl, outer.tight_render supplied pages (.self _) rfl⟩

end SqlBuilder
