import Mathlib.Algebra.Order.Group.Multiset
import Mathlib.Data.Multiset.Dedup
import Mathlib.Algebra.BigOperators.Group.List.Basic
import SqlBuilder.Proofs.CompoundText

/-!
# The rows of a compound SELECT

A compound stands for a bag of rows: its members are added from left to right, and a member that is
a compound stands for the rows of that compound. The text lists the cores of all members flat, so
statements of different grouping share a text. They stand for the same rows when all operators are
the same, and only then (`SetQuery.grouping_kept_iff`).
-/
namespace SqlBuilder

section Rows

variable {Row : Type} [DecidableEq Row] {bag : String → Multiset Row}

/-- UNION ALL adds the rows of two bags, UNION removes the duplicates as well. -/
def combine (keepDuplicates : Bool) (left right : Multiset Row) : Multiset Row :=
  if keepDuplicates then left + right else (left + right).dedup

mutual

/-- The rows of a compound, where every core has rows of its own. -/
def Statement.rows (bag : String → Multiset Row) : Statement → Multiset Row
  | s@⟨_, _, _, _, _, _, _, _, _, _, _, _, _, _, _, _, unionMembers, _, _, _⟩ =>
    UnionMember.addRows bag (bag s.coreText) unionMembers

def UnionMember.addRows (bag : String → Multiset Row) :
    Multiset Row → List UnionMember → Multiset Row
  | rows, [] => rows
  | rows, ⟨member, keepDuplicates⟩ :: rest =>
      UnionMember.addRows bag (combine keepDuplicates rows (member.rows bag)) rest

end

theorem Statement.rows_eq (s : Statement) :
    s.rows bag = s.unionMembers.foldl
      (fun rows member => combine member.keepDuplicates rows (member.statement.rows bag))
      (bag s.coreText) := by
  have added (members : List UnionMember) (rows : Multiset Row) :
      UnionMember.addRows bag rows members = members.foldl
        (fun rows member => combine member.keepDuplicates rows (member.statement.rows bag))
        rows := by
    induction members generalizing rows with
    | nil => rfl
    | cons member rest ih =>
      obtain ⟨statement, keepDuplicates⟩ := member
      rw [UnionMember.addRows, ih, List.foldl_cons]
  cases s
  exact added _ _

theorem mem_combine {keepDuplicates : Bool} {left right : Multiset Row} {row : Row} :
    row ∈ combine keepDuplicates left right ↔ row ∈ left ∨ row ∈ right := by
  unfold combine
  split
  · exact Multiset.mem_add
  · rw [Multiset.mem_dedup, Multiset.mem_add]

/-- The rows of a list of members are those of the cores in it. -/
theorem mem_foldl_combine_iff {members : List UnionMember} {row : Row}
    (known : ∀ member ∈ members,
      (row ∈ member.statement.rows bag ↔ ∃ core ∈ member.flat, row ∈ bag core.2))
    (rows : Multiset Row) :
    row ∈ members.foldl
        (fun rows member => combine member.keepDuplicates rows (member.statement.rows bag)) rows ↔
      row ∈ rows ∨ ∃ core ∈ members.flatMap UnionMember.flat, row ∈ bag core.2 := by
  induction members generalizing rows with
  | nil => simp
  | cons member rest ih =>
    obtain ⟨first, later⟩ := List.forall_mem_cons.mp known
    rw [List.foldl_cons, ih later, mem_combine, first, List.flatMap_cons]
    simp only [List.mem_append, or_and_right, exists_or, or_assoc]

/-- Grouping does not change which rows there are, only how often. -/
theorem Statement.mem_rows_iff (s : Statement) {row : Row} :
    row ∈ s.rows bag ↔ row ∈ bag s.coreText ∨ ∃ core ∈ s.flatMembers, row ∈ bag core.2 := by
  induction s using Statement.member_induction with
  | step s ih =>
    rw [Statement.rows_eq, Statement.flatMembers_eq]
    refine mem_foldl_combine_iff (fun member inList => ?_) _
    rw [ih member inList, UnionMember.flat]
    simp only [List.mem_cons, exists_eq_or_imp]

theorem foldl_combine_of_keepDuplicates {members : List UnionMember}
    (keep : ∀ member ∈ members, member.keepDuplicates = true)
    (known : ∀ member ∈ members,
      member.statement.rows bag = (member.flat.map fun core => bag core.2).sum)
    (rows : Multiset Row) :
    members.foldl
        (fun rows member => combine member.keepDuplicates rows (member.statement.rows bag)) rows =
      rows + ((members.flatMap UnionMember.flat).map fun core => bag core.2).sum := by
  induction members generalizing rows with
  | nil => simp
  | cons member rest ih =>
    obtain ⟨keepFirst, keepLater⟩ := List.forall_mem_cons.mp keep
    obtain ⟨first, later⟩ := List.forall_mem_cons.mp known
    rw [List.foldl_cons, ih keepLater later, combine, if_pos keepFirst, first, List.flatMap_cons,
      List.map_append, List.sum_append, add_assoc]

/-- Where all duplicates are kept the rows of all cores are added up. -/
theorem Statement.rows_of_keepDuplicates (s : Statement)
    (keep : ∀ core ∈ s.flatMembers, core.1 = true) :
    s.rows bag = bag s.coreText + (s.flatMembers.map fun core => bag core.2).sum := by
  induction s using Statement.member_induction with
  | step s ih =>
    rw [Statement.flatMembers_eq] at keep
    have inMember (member : UnionMember) (inList : member ∈ s.unionMembers) :
        ∀ core ∈ member.flat, core.1 = true :=
      fun core inFlat => keep core (List.mem_flatMap.mpr ⟨member, inList, inFlat⟩)
    rw [Statement.rows_eq, Statement.flatMembers_eq]
    refine foldl_combine_of_keepDuplicates (fun member inList => ?_) (fun member inList => ?_) _
    · exact inMember member inList _ List.mem_cons_self
    · have inner := fun core inFlat =>
        inMember member inList core (List.mem_cons_of_mem _ inFlat)
      rw [ih member inList inner, UnionMember.flat, List.map_cons, List.sum_cons]

/-- The last operator removes the duplicates of all rows before it. -/
theorem Statement.nodup_rows (s : Statement) (several : s.flatMembers ≠ [])
    (remove : ∀ member ∈ s.flatMembers, member.1 = false) : (s.rows bag).Nodup := by
  rw [Statement.flatMembers_eq] at several remove
  obtain nothing | ⟨front, last, united⟩ := List.eq_nil_or_concat' s.unionMembers
  · rw [nothing] at several
    exact absurd rfl several
  · have removed : last.keepDuplicates = false := by
      apply remove (last.keepDuplicates, last.statement.coreText)
      rw [united]
      simp [UnionMember.flat]
    rw [Statement.rows_eq, united, List.foldl_append, List.foldl_cons, List.foldl_nil, combine,
      removed, if_neg (by decide)]
    exact Multiset.nodup_dedup _

/-- Under one operator the flat list says how often each row occurs. -/
theorem Statement.rows_eq_of_flatMembers {s t : Statement} {keepDuplicates : Bool}
    (sameCore : t.coreText = s.coreText) (sameMembers : t.flatMembers = s.flatMembers)
    (alike : ∀ member ∈ s.flatMembers, member.1 = keepDuplicates) : t.rows bag = s.rows bag := by
  by_cases kept : ∀ member ∈ s.flatMembers, member.1 = true
  · rw [s.rows_of_keepDuplicates kept, t.rows_of_keepDuplicates (sameMembers ▸ kept), sameCore,
      sameMembers]
  · have removed : keepDuplicates = false := by
      cases keepDuplicates with
      | false => rfl
      | true => exact absurd alike kept
    subst removed
    have several : s.flatMembers ≠ [] := by
      intro nothing
      rw [nothing] at kept
      exact kept fun member inList => by cases inList
    refine (Multiset.Nodup.ext (t.nodup_rows (sameMembers ▸ several) (sameMembers ▸ alike))
      (s.nodup_rows several alike)).mpr fun row => ?_
    rw [s.mem_rows_iff, t.mem_rows_iff, sameCore, sameMembers]

end Rows

/-! ### Building another grouping -/

/-- A SELECT over names. -/
def plainSelect (names : List String) (source : Option String) : Statement :=
  { kind := some .select, selectList := names.map .sql, source := source.map .sql }

theorem setQuery_plainSelect {names : List String} {source : Option String}
    (named : ∀ name ∈ names, IsIdentifier name) (sourced : ∀ name ∈ source, IsIdentifier name) :
    SetQuery (plainSelect names source) := by
  have selected : ({} : Statement).apply (.select (names.map .sql)) = plainSelect names none := by
    have accepted : (names.map Operand.sql).findSome? (Operand.refusal? "SELECT list") = none := by
      rw [List.findSome?_eq_none_iff]
      intro item inList
      obtain ⟨name, _, rfl⟩ := List.mem_map.mp inList
      rfl
    have listed := embedded_names names
    rw [Statement.apply, Statement.select, Statement.become]
    change Statement.extendSelectList _ _ _ = _
    rw [Statement.extendSelectList, accepted, listed]
    rfl
  have built := SetBuilt.start.select named
  rw [selected] at built
  cases source with
  | none => exact ⟨built, rfl⟩
  | some name => exact ⟨built.readFrom (sourced name rfl), rfl⟩

/-- A compound that renders. -/
structure CleanQuery (s : Statement) : Prop extends SetQuery s where
  clean : s.firstError = none

/-- A SELECT without members. -/
structure IsLeaf (s : Statement) : Prop extends CleanQuery s where
  single : s.unionMembers = []

/-- Every core is the text of a SELECT of its own. -/
theorem SetQuery.exists_leaf {s : Statement} (query : SetQuery s) :
    ∃ leaf, IsLeaf leaf ∧ leaf.coreText = s.coreText := by
  have shape := query.built.shape
  obtain ⟨names, named, listed⟩ := shape.selectList
  rcases shape.source with absent | ⟨name, isName, present⟩
  · refine ⟨plainSelect names none, ⟨⟨setQuery_plainSelect named ?_, rfl⟩, rfl⟩, ?_⟩
    · rintro name ⟨⟩
    · rw [Statement.coreText, Statement.coreText, listed, absent, Statement.selectListText,
        Statement.selectListText, shape.distinct]
      rfl
  · refine ⟨plainSelect names (some name), ⟨⟨setQuery_plainSelect named ?_, rfl⟩, rfl⟩, ?_⟩
    · rintro _ ⟨⟩
      exact isName
    · have sourced : s.fromText (some name) = "FROM " ++ name ++ "" := by
        simp only [Statement.fromText, shape.sourceAlias]
      rw [Statement.coreText, Statement.coreText, listed, present, Statement.selectListText,
        Statement.selectListText, shape.distinct]
      change _ = Layout.spaced [_, s.fromText (some name)]
      rw [sourced]
      rfl

/-- The operator and the core of a single SELECT that is united. -/
def flatLeaf (leaf : Bool × Statement) : Bool × String := (leaf.1, leaf.2.coreText)

theorem exists_leaves {cores : List (Bool × String)}
    (each : ∀ core ∈ cores, ∃ t, SetQuery t ∧ t.coreText = core.2) :
    ∃ leaves : List (Bool × Statement), (∀ leaf ∈ leaves, IsLeaf leaf.2) ∧
      leaves.map flatLeaf = cores := by
  induction cores with
  | nil => exact ⟨[], by simp, rfl⟩
  | cons core rest ih =>
    obtain ⟨⟨t, query, sameText⟩, later⟩ := List.forall_mem_cons.mp each
    obtain ⟨leaf, isLeaf, same⟩ := query.exists_leaf
    obtain ⟨leaves, areLeaves, rfl⟩ := ih later
    refine ⟨(core.1, leaf) :: leaves, List.forall_mem_cons.mpr ⟨isLeaf, areLeaves⟩, ?_⟩
    rw [List.map_cons, flatLeaf, same, sameText]

/-- Unites a SELECT with others, one after the other. -/
def Statement.unite (s : Statement) (members : List (Bool × Statement)) : Statement :=
  members.foldl (fun s member => s.union member.1 member.2) s

section Unite

variable {s member : Statement} {Row : Type} [DecidableEq Row] {bag : String → Multiset Row}

theorem CleanQuery.union_eq (query : CleanQuery s) (given : CleanQuery member)
    (keepDuplicates : Bool) :
    s.union keepDuplicates member =
      { s with unionMembers := s.unionMembers ++ [⟨member, keepDuplicates⟩] } := by
  rw [Statement.union, Statement.ifAccepts, query.selects, given.selects, given.clean]
  simp [Clause.accepts, Statement.record_none, query.selects]

theorem CleanQuery.union (query : CleanQuery s) (given : CleanQuery member)
    (keepDuplicates : Bool) : CleanQuery (s.union keepDuplicates member) := by
  have built := query.built.union keepDuplicates given.built
  have same := query.union_eq given keepDuplicates
  refine ⟨⟨built, ?_⟩, ?_⟩
  · rw [same]
    exact query.selects
  · rw [same]
    exact query.clean

theorem CleanQuery.coreText_union (query : CleanQuery s) (given : CleanQuery member)
    (keepDuplicates : Bool) : (s.union keepDuplicates member).coreText = s.coreText := by
  rw [query.union_eq given]
  rfl

theorem CleanQuery.flatMembers_union (query : CleanQuery s) (given : CleanQuery member)
    (keepDuplicates : Bool) :
    (s.union keepDuplicates member).flatMembers =
      s.flatMembers ++ (keepDuplicates, member.coreText) :: member.flatMembers := by
  rw [query.union_eq given, Statement.flatMembers_eq, Statement.flatMembers_eq s,
    List.flatMap_append, List.flatMap_singleton, UnionMember.flat]

theorem CleanQuery.rows_union (query : CleanQuery s) (given : CleanQuery member)
    (keepDuplicates : Bool) :
    (s.union keepDuplicates member).rows bag =
      combine keepDuplicates (s.rows bag) (member.rows bag) := by
  rw [query.union_eq given, Statement.rows_eq, Statement.rows_eq s, List.foldl_append]
  rfl

theorem IsLeaf.flatMembers_eq_nil (leaf : IsLeaf s) : s.flatMembers = [] := by
  rw [Statement.flatMembers_eq, leaf.single, List.flatMap_nil]

theorem IsLeaf.rows_eq (leaf : IsLeaf s) : s.rows bag = bag s.coreText := by
  rw [Statement.rows_eq, leaf.single, List.foldl_nil]

/-- A compound united with single SELECTs lists their cores behind its own. -/
theorem CleanQuery.unite {leaves : List (Bool × Statement)} (query : CleanQuery s)
    (areLeaves : ∀ leaf ∈ leaves, IsLeaf leaf.2) :
    CleanQuery (s.unite leaves) ∧ (s.unite leaves).coreText = s.coreText ∧
      (s.unite leaves).flatMembers = s.flatMembers ++ leaves.map flatLeaf := by
  induction leaves generalizing s with
  | nil => exact ⟨query, rfl, by simp [Statement.unite]⟩
  | cons leaf rest ih =>
    obtain ⟨isLeaf, later⟩ := List.forall_mem_cons.mp areLeaves
    have given := isLeaf.toCleanQuery
    obtain ⟨united, sameCore, flat⟩ := ih (query.union given leaf.1) later
    refine ⟨united, ?_, ?_⟩
    · rw [← query.coreText_union given leaf.1]
      exact sameCore
    · rw [query.flatMembers_union given, isLeaf.flatMembers_eq_nil] at flat
      rw [List.map_cons, List.append_cons]
      exact flat

theorem CleanQuery.rows_unite {leaves : List (Bool × Statement)} (query : CleanQuery s)
    (areLeaves : ∀ leaf ∈ leaves, IsLeaf leaf.2) :
    (s.unite leaves).rows bag = (leaves.map flatLeaf).foldl
      (fun rows core => combine core.1 rows (bag core.2)) (s.rows bag) := by
  induction leaves generalizing s with
  | nil => rfl
  | cons leaf rest ih =>
    obtain ⟨isLeaf, later⟩ := List.forall_mem_cons.mp areLeaves
    have rows := ih (query.union isLeaf.toCleanQuery leaf.1) later
    rw [query.rows_union isLeaf.toCleanQuery, isLeaf.rows_eq] at rows
    rw [List.map_cons, List.foldl_cons]
    exact rows

end Unite

/-! ### Counting one row -/

/-- How often a row occurs that every core holds once, behind a list of operators. -/
def tally (operators : List Bool) (count : Nat) : Nat :=
  operators.foldl (fun count keep => if keep then count + 1 else 1) count

section Tally

variable {operators : List Bool} {count : Nat}

theorem le_tally (keep : false ∉ operators) : count ≤ tally operators count := by
  induction operators generalizing count with
  | nil => exact Nat.le_refl count
  | cons operator rest ih =>
    rw [List.mem_cons, not_or] at keep
    have kept : operator = true := by
      cases operator with
      | false => exact absurd rfl keep.1
      | true => rfl
    have later : count + 1 ≤ tally rest (count + 1) := ih keep.2
    rw [tally, List.foldl_cons, if_pos kept]
    exact Nat.le_of_succ_le later

theorem tally_pos (positive : 0 < count) : 0 < tally operators count := by
  induction operators generalizing count with
  | nil => exact positive
  | cons operator rest ih =>
    cases operator with
    | false => exact ih Nat.one_pos
    | true => exact ih (Nat.succ_pos count)

theorem tally_append (front back : List Bool) :
    tally (front ++ back) count = tally back (tally front count) :=
  List.foldl_append

/-- An operator that removes duplicates forgets how often the row occurred before. -/
theorem tally_eq_of_mem (removes : false ∈ operators) (other : Nat) :
    tally operators count = tally operators other := by
  induction operators generalizing count other with
  | nil => cases removes
  | cons operator rest ih =>
    cases operator with
    | false => rfl
    | true =>
      have later : false ∈ rest := by simpa using removes
      exact ih later (other + 1)

/-- Operators of both sorts can be grouped so that the count differs: what follows some operator is
made a member of its own. -/
theorem exists_split_of_mixed (keeps : true ∈ operators) (removes : false ∈ operators) :
    ∃ front keep back, operators = front ++ keep :: back ∧
      tally (keep :: back) (tally front 1) ≠
        if keep then tally front 1 + tally back 1 else 1 := by
  have early {front back : List Bool} (later : false ∈ back) :
      tally (true :: back) (tally front 1) ≠ tally front 1 + tally back 1 := by
    have same : tally (true :: back) (tally front 1) = tally back 1 := tally_eq_of_mem later 1
    have positive : 0 < tally front 1 := tally_pos (by decide)
    omega
  -- Cut at a UNION ALL that has a UNION behind it; if there is none, at the UNION itself.
  obtain ⟨front, back, rfl⟩ := List.append_of_mem removes
  rcases List.mem_append.mp keeps with before | after
  · obtain ⟨first, second, rfl⟩ := List.append_of_mem before
    refine ⟨first, true, second ++ false :: back, by simp, ?_⟩
    exact early (by simp)
  · obtain ⟨first, second, rfl⟩ := List.append_of_mem (show true ∈ back by simpa using after)
    by_cases later : false ∈ second
    · refine ⟨front ++ false :: first, true, second, by simp, ?_⟩
      exact early later
    · refine ⟨front, false, first ++ true :: second, rfl, ?_⟩
      have grown : tally first 1 + 1 ≤ tally second (tally first 1 + 1) := le_tally later
      have positive : 0 < tally first 1 := tally_pos (by decide)
      have same : tally (false :: (first ++ true :: second)) (tally front 1) =
          tally second (tally first 1 + 1) := by
        rw [tally, List.foldl_cons]
        exact tally_append first (true :: second)
      rw [if_neg (by decide), same]
      omega

end Tally

section Grouping

variable {Row : Type} [DecidableEq Row] {s : Statement}

theorem combine_replicate (row : Row) (keepDuplicates : Bool) {count : Nat} (positive : 0 < count)
    (more : Nat) :
    combine keepDuplicates (Multiset.replicate count row) (Multiset.replicate more row) =
      Multiset.replicate (if keepDuplicates then count + more else 1) row := by
  cases keepDuplicates with
  | true => exact (Multiset.replicate_add count more row).symm
  | false =>
    rw [combine, if_neg (by decide), if_neg (by decide), ← Multiset.replicate_add,
      Multiset.replicate_one, ← Multiset.dedup_singleton, Multiset.dedup_ext]
    intro other
    rw [Multiset.mem_replicate, Multiset.mem_singleton, and_iff_right (by omega)]

theorem foldl_combine_replicate (row : Row) (cores : List (Bool × String)) {count : Nat}
    (positive : 0 < count) :
    cores.foldl (fun rows core => combine core.1 rows {row}) (Multiset.replicate count row) =
      Multiset.replicate (tally (cores.map (·.1)) count) row := by
  induction cores generalizing count with
  | nil => rfl
  | cons core rest ih =>
    have next := combine_replicate row core.1 positive 1
    rw [Multiset.replicate_one] at next
    rw [List.foldl_cons, next, ih (by split <;> omega), List.map_cons, tally, tally,
      List.foldl_cons]

theorem IsLeaf.rows_unite {leaves : List (Bool × Statement)} (leaf : IsLeaf s)
    (areLeaves : ∀ leaf ∈ leaves, IsLeaf leaf.2) (row : Row) :
    (s.unite leaves).rows (fun _ => {row}) =
      Multiset.replicate (tally ((leaves.map flatLeaf).map (·.1)) 1) row := by
  have counted := foldl_combine_replicate row (leaves.map flatLeaf) Nat.one_pos
  rw [Multiset.replicate_one] at counted
  rw [leaf.toCleanQuery.rows_unite areLeaves, leaf.rows_eq]
  exact counted

theorem CleanQuery.result_render (query : CleanQuery s) (r : Renderer)
    (unpaged : (r.pagination.clause? none 0).getD "" = "") :
    (r.render s).result = .ok (compoundText s.coreText s.flatMembers) := by
  rw [Renderer.result_render]
  exact query.render_eq unpaged query.clean

theorem SetQuery.cleanQuery {r : Renderer} {sql : String} (query : SetQuery s)
    (rendered : (r.render s).result = .ok sql) : CleanQuery s := by
  rw [Renderer.result_render] at rendered
  exact ⟨query, Statement.firstError_of_render rendered⟩

/-- Two groupings of a flat list with operators of both sorts that stand for different rows. -/
theorem SetQuery.exists_groupings (query : SetQuery s)
    (keeps : true ∈ s.flatMembers.map (·.1)) (removes : false ∈ s.flatMembers.map (·.1))
    (row : Row) :
    ∃ t u, CleanQuery t ∧ CleanQuery u ∧ t.coreText = s.coreText ∧ u.coreText = s.coreText ∧
      t.flatMembers = s.flatMembers ∧ u.flatMembers = s.flatMembers ∧
      t.rows (fun _ => {row}) ≠ u.rows (fun _ => {row}) := by
  obtain ⟨front, keep, back, split, differ⟩ := exists_split_of_mixed keeps removes
  obtain ⟨root, isRoot, sameCore⟩ := query.exists_leaf
  obtain ⟨leaves, areLeaves, flat⟩ := exists_leaves query.exists_of_mem_flatMembers
  rw [← flat, List.map_map] at split
  obtain ⟨before, rest, rfl, rfl, later⟩ := List.map_eq_append_iff.mp split
  obtain ⟨leaf, after, rfl, rfl, rfl⟩ := List.map_eq_cons_iff.mp later
  -- One grouping is flat; the other makes one member of all that stands behind the cut.
  obtain ⟨areBefore, areRest⟩ := List.forall_mem_append.mp areLeaves
  obtain ⟨isLeaf, areAfter⟩ := List.forall_mem_cons.mp areRest
  obtain ⟨flatClean, flatCore, flatList⟩ := isRoot.toCleanQuery.unite areLeaves
  obtain ⟨frontClean, frontCore, frontList⟩ := isRoot.toCleanQuery.unite areBefore
  obtain ⟨backClean, backCore, backList⟩ := isLeaf.toCleanQuery.unite areAfter
  refine ⟨_, _, flatClean, frontClean.union backClean leaf.1, flatCore.trans sameCore, ?_, ?_, ?_,
    ?_⟩
  · rw [frontClean.coreText_union backClean, frontCore, sameCore]
  · rw [flatList, isRoot.flatMembers_eq_nil, List.nil_append, flat]
  · rw [frontClean.flatMembers_union backClean, frontList, backList, backCore,
      isRoot.flatMembers_eq_nil, isLeaf.flatMembers_eq_nil, ← flat]
    simp [flatLeaf]
  · rw [isRoot.rows_unite areLeaves, frontClean.rows_union backClean, isRoot.rows_unite areBefore,
      isLeaf.rows_unite areAfter, combine_replicate row _ (tally_pos Nat.one_pos)]
    intro same
    have counts := Multiset.replicate_left_injective row same
    simp only [List.map_map, List.map_append, List.map_cons, tally_append] at counts
    exact differ counts

/-- A text determines the rows of its compound when all its operators are the same, and only then.
Otherwise a member that is a compound of its own is read as if its members were listed flat. -/
theorem SetQuery.grouping_kept_iff (Row : Type) [DecidableEq Row] [Nonempty Row] {s : Statement}
    (query : SetQuery s) (r : Renderer) (unpaged : (r.pagination.clause? none 0).getD "" = "")
    {sql : String} (rendered : (r.render s).result = .ok sql) :
    (∀ t, SetQuery t → (r.render t).result = .ok sql →
        ∀ bag : String → Multiset Row, t.rows bag = s.rows bag) ↔
      ∃ keep, ∀ core ∈ s.flatMembers, core.1 = keep := by
  have same := (query.cleanQuery rendered).result_render r unpaged
  rw [rendered] at same
  obtain rfl := Except.ok.inj same
  constructor
  · intro kept
    by_contra mixed
    obtain ⟨row⟩ := ‹Nonempty Row›
    have present (keep : Bool) : keep ∈ s.flatMembers.map (·.1) := by
      by_contra absent
      refine mixed ⟨!keep, fun core inFlat => ?_⟩
      rw [Bool.eq_not]
      rintro rfl
      exact absent (List.mem_map_of_mem inFlat)
    obtain ⟨t, u, cleanT, cleanU, coreT, coreU, flatT, flatU, differ⟩ :=
      query.exists_groupings (present true) (present false) row
    have renderedT := cleanT.result_render r unpaged
    have renderedU := cleanU.result_render r unpaged
    rw [coreT, flatT] at renderedT
    rw [coreU, flatU] at renderedU
    apply differ
    rw [kept t cleanT.toSetQuery renderedT, kept u cleanU.toSetQuery renderedU]
  · rintro ⟨keep, alike⟩ t other renderedT bag
    have sameText := (other.cleanQuery renderedT).result_render r unpaged
    rw [renderedT] at sameText
    obtain ⟨sameCore, sameMembers⟩ := compoundText_injective query.built.shape.isCore
      other.built.shape.isCore query.isCore_of_mem_flatMembers other.isCore_of_mem_flatMembers
      (Except.ok.inj sameText)
    exact Statement.rows_eq_of_flatMembers sameCore.symm sameMembers.symm alike

end Grouping

/-! ### A UNION inside a UNION ALL -/

/-- A UNION that is a member of a UNION ALL. -/
def nestedUnion : Statement :=
  (plainSelect ["a"] (some "x")).union true
    ((plainSelect ["a"] (some "y")).union false (plainSelect ["a"] (some "z")))

/-- The same cores and operators without nesting. -/
def flatUnion : Statement :=
  ((plainSelect ["a"] (some "x")).union true (plainSelect ["a"] (some "y"))).union false
    (plainSelect ["a"] (some "z"))

theorem setBuilt_cores : SetBuilt (plainSelect ["a"] (some "x")) ∧
    SetBuilt (plainSelect ["a"] (some "y")) ∧ SetBuilt (plainSelect ["a"] (some "z")) := by
  have core (source : String) (sourced : IsIdentifier source) :
      SetBuilt (plainSelect ["a"] (some source)) := by
    apply (setQuery_plainSelect _ _).built
    · simp [IsIdentifier]
    · simpa using sourced
  exact ⟨core "x" (by simp [IsIdentifier]), core "y" (by simp [IsIdentifier]),
    core "z" (by simp [IsIdentifier])⟩

theorem setQuery_nestedUnion : SetQuery nestedUnion := by
  obtain ⟨x, y, z⟩ := setBuilt_cores
  exact ⟨x.union true (y.union false z), rfl⟩

theorem setQuery_flatUnion : SetQuery flatUnion := by
  obtain ⟨x, y, z⟩ := setBuilt_cores
  exact ⟨(x.union true y).union false z, rfl⟩

theorem grouping_kept_iff_nestedUnion :
    (∀ t, SetQuery t → ((default : Renderer).render t).result =
          .ok "SELECT a FROM x UNION ALL SELECT a FROM y UNION SELECT a FROM z" →
        ∀ bag : String → Multiset Unit, t.rows bag = nestedUnion.rows bag) ↔
      ∃ keep, ∀ core ∈ nestedUnion.flatMembers, core.1 = keep :=
  setQuery_nestedUnion.grouping_kept_iff Unit default rfl rfl

/-- The nested and the flat compound share their text and not their rows. -/
theorem nestedUnion_conflated_flatUnion :
    SetQuery nestedUnion ∧ SetQuery flatUnion ∧
      ((default : Renderer).render nestedUnion).result =
        .ok "SELECT a FROM x UNION ALL SELECT a FROM y UNION SELECT a FROM z" ∧
      ((default : Renderer).render flatUnion).result =
        .ok "SELECT a FROM x UNION ALL SELECT a FROM y UNION SELECT a FROM z" ∧
      nestedUnion.rows (fun _ => {()}) ≠ flatUnion.rows fun _ => {()} :=
  ⟨setQuery_nestedUnion, setQuery_flatUnion, rfl, rfl, by decide⟩

end SqlBuilder
