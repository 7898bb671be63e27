import SqlBuilder.Proofs.IgnoredClauses
import SqlBuilder.Proofs.RenderedParts

/-!
# Columns of named values

An INSERT of named values writes the values in the order of their pairs. Its columns are the names
of the pairs, in the same order, unless a column list was set: the list takes their place, and only
its length is compared with the pairs. So a value stands under the column it was named with exactly
when the list repeats the names.
-/
namespace SqlBuilder

/-- The columns that an INSERT of named values writes. -/
def Statement.writtenColumns (s : Statement) (pairs : List (String × Operand)) : List String :=
  s.columnList.getD (pairs.map (·.1))

/-- Every column is the name of the pair in its place. -/
def Paired (columns : List String) (pairs : List (String × Operand)) : Prop :=
  columns.length = pairs.length ∧
    ∀ (i : Nat) (column : String) (pair : String × Operand),
      columns[i]? = some column → pairs[i]? = some pair → column = pair.1

theorem paired_iff {columns : List String} {pairs : List (String × Operand)} :
    Paired columns pairs ↔ columns = pairs.map (·.1) := by
  constructor
  · rintro ⟨balanced, named⟩
    refine List.ext_getElem (by rw [balanced, List.length_map]) fun i inColumns inNames => ?_
    have inPairs : i < pairs.length := by rwa [balanced] at inColumns
    rw [List.getElem_map]
    exact named i _ _ (List.getElem?_eq_getElem inColumns) (List.getElem?_eq_getElem inPairs)
  · rintro rfl
    refine ⟨List.length_map _, fun i column pair atColumn atPair => ?_⟩
    rw [List.getElem?_map, atPair] at atColumn
    exact (Option.some.inj atColumn).symm

namespace Statement

variable {s : Statement} {pairs : List (String × Operand)} {p : Pagination} {sql : String}

/-- The columns are the names of the pairs unless a list says otherwise. -/
theorem paired_writtenColumns_iff :
    Paired (s.writtenColumns pairs) pairs ↔
      s.columnList = none ∨ s.columnList = some (pairs.map (·.1)) := by
  rw [paired_iff, writtenColumns]
  cases s.columnList with
  | none => simp
  | some columns => simp

theorem insertedText_named (named : s.payload = some (.named pairs)) (parts : Parts) :
    s.insertedText parts =
      insertedValuesText (s.writtenColumns pairs) pairs.length parts.values := by
  rw [insertedText, named, writtenColumns]
  cases s.columnList with
  | none => rfl
  | some columns => rfl

end Statement

open Statement in
/-- An INSERT of named values writes as many columns as values, the values in the order of their
pairs, and each value under its own column exactly when no list of other columns was set. -/
theorem Reachable.namedValues_paired_iff {s : Statement} (reachable : Reachable s)
    (inserts : s.kind = some .insert) {pairs : List (String × Operand)}
    (named : s.payload = some (.named pairs)) (r : Renderer) {sql : String}
    (rendered : (r.render s).result = .ok sql) :
    ∃ ctes table values,
      sql = Layout.spaced [s.withText ctes, "INSERT INTO " ++ table,
        Layout.insertedValues (s.writtenColumns pairs) values] ∧
      s.source = some (.sql table) ∧
      (s.writtenColumns pairs).length = values.length ∧
      List.Forall₂ (fun pair value => pair.2.renderValue r.pagination = .ok value) pairs values ∧
      (Paired (s.writtenColumns pairs) pairs ↔
        s.columnList = none ∨ s.columnList = some (pairs.map (·.1))) := by
  rw [Renderer.result_render] at rendered
  have clean := firstError_of_render rendered
  rw [render_eq_bareText clean reachable.derived_eq_false, bareText, inserts] at rendered
  simp only [insertText, bind_eq_ok_iff, pure_eq_ok_iff] at rendered
  obtain ⟨ctes, -, table, atTable, inserted, written, rfl⟩ := rendered
  rw [insertedText_named named, insertedValuesText_eq_ok_iff] at written
  obtain ⟨balanced, values, renderedValues, rfl⟩ := written
  obtain ⟨name, aimed⟩ := reachable.compatible.exists_table clean inserts (by decide)
  rw [tableText, parts, aimed] at atTable
  cases atTable
  have inOrder : List.Forall₂ (fun pair value => pair.2.renderValue r.pagination = .ok value)
      pairs values := by
    rw [parts, operandsAt, named] at renderedValues
    have each := forall₂_of_mapM_eq_ok renderedValues fun _ _ _ rendered => rendered
    exact List.forall₂_map_left_iff.mp each
  refine ⟨ctes, table, values, rfl, aimed, ?_, inOrder, paired_writtenColumns_iff⟩
  rw [balanced, inOrder.length_eq]

/-- Two named values. -/
def twoPairs : List (String × Operand) := [("a", .sql "1"), ("b", .sql "2")]

/-- A list that names the columns of two values in another order. -/
def reorderedInsert : Statement :=
  ({} : Statement).run [.insertInto "t", .columns ["b", "a"], .values twoPairs]

theorem reachable_reorderedInsert : Reachable reorderedInsert := by
  apply Reachable.start.run
  simp [Place.forall_iff, Call.operandsAt, twoPairs]

theorem namedValues_paired_iff_reorderedInsert :
    ∃ ctes table values,
      "INSERT INTO t (b,a) VALUES (1,2)" = Layout.spaced [reorderedInsert.withText ctes,
        "INSERT INTO " ++ table,
        Layout.insertedValues (reorderedInsert.writtenColumns twoPairs) values] ∧
      reorderedInsert.source = some (.sql table) ∧
      (reorderedInsert.writtenColumns twoPairs).length = values.length ∧
      List.Forall₂
        (fun pair value => pair.2.renderValue (default : Renderer).pagination = .ok value)
        twoPairs values ∧
      (Paired (reorderedInsert.writtenColumns twoPairs) twoPairs ↔
        reorderedInsert.columnList = none ∨
          reorderedInsert.columnList = some (twoPairs.map (·.1))) :=
  reachable_reorderedInsert.namedValues_paired_iff rfl rfl default rfl

/-- The value named `a` is written to the column `b`. -/
theorem not_paired_reorderedInsert :
    Reachable reorderedInsert ∧ reorderedInsert.kind = some .insert ∧
      reorderedInsert.payload = some (.named twoPairs) ∧
      ((default : Renderer).render reorderedInsert).result =
        .ok "INSERT INTO t (b,a) VALUES (1,2)" ∧
      ¬ Paired (reorderedInsert.writtenColumns twoPairs) twoPairs := by
  refine ⟨reachable_reorderedInsert, rfl, rfl, rfl, ?_⟩
  rintro ⟨_, named⟩
  have crossed : "b" = "a" := named 0 _ _ rfl rfl
  simp at crossed

end SqlBuilder
