import SqlBuilder.Proofs.RenderedParts
import SqlBuilder.Proofs.Reachable

/-!
# The text of a compound SELECT

A compound is built by `select`, `from`, `union` and `union all` over identifiers, and its members
are compounds again. None of them orders its rows, so no member is put in parentheses and the text
is a flat list of cores with an operator in front of each but the first (`SetQuery.render_eq`). The
flat list can be read off the text: no core holds the letter that starts an operator
(`compoundText_injective`).
-/
namespace SqlBuilder

/-- A name in lower-case letters, digits and underscores. -/
def IsIdentifier (text : String) : Prop :=
  text ≠ "" ∧ ∀ c ∈ text.toList, c.isLower ∨ c.isDigit ∨ c = '_'

/-- Built by `select` and `from` over identifiers and set operators over statements built alike. -/
inductive SetBuilt : Statement → Prop where
  | start : SetBuilt {}
  | select {s : Statement} {names : List String} (before : SetBuilt s)
      (named : ∀ name ∈ names, IsIdentifier name) :
      SetBuilt (s.apply (.select (names.map .sql)))
  | readFrom {s : Statement} {name : String} (before : SetBuilt s) (named : IsIdentifier name) :
      SetBuilt (s.apply (.readFrom (.sql name)))
  | union {s member : Statement} (keepDuplicates : Bool) (before : SetBuilt s)
      (given : SetBuilt member) : SetBuilt (s.apply (.union keepDuplicates member))

/-- A compound SELECT, or a single one. -/
structure SetQuery (s : Statement) : Prop where
  built : SetBuilt s
  selects : s.kind = some .select

/-- What the set calls leave in a statement. -/
structure SetShape (s : Statement) : Prop where
  derived : s.derived = false
  distinct : s.distinct = false
  selectList : ∃ names : List String,
    (∀ name ∈ names, IsIdentifier name) ∧ s.selectList = names.map .sql
  source : s.source = none ∨ ∃ name, IsIdentifier name ∧ s.source = some (.sql name)
  sourceAlias : s.sourceAlias = none
  joins : s.joins = []
  conditions : s.conditions = []
  groupColumns : s.groupColumns = []
  orderTerms : s.orderTerms = []
  rowLimit : s.rowLimit = none
  rowOffset : s.rowOffset = 0
  ctes : s.ctes = []
  members : ∀ member ∈ s.unionMembers, SetQuery member.statement ∧
    (s.firstError = none → member.statement.firstError = none)

section Shape

variable {s member : Statement} {name : String} {names : List String}

theorem SetShape.record (shape : SetShape s) (error? : Option Error) :
    SetShape (s.record error?) := by
  refine { shape with members := fun member inList => ?_ }
  obtain ⟨query, clean⟩ := shape.members member inList
  exact ⟨query, fun recorded => clean (Option.or_eq_none_iff.mp recorded).1⟩

theorem embedded_names (names : List String) :
    ((names.map Operand.sql).filter (!·.lacksVerb)).map Operand.embedded = names.map .sql := by
  induction names with
  | nil => rfl
  | cons name rest ih =>
    rw [List.map_cons, List.filter_cons_of_pos rfl, List.map_cons, ih]
    rfl

theorem SetShape.select (shape : SetShape s) (named : ∀ name ∈ names, IsIdentifier name) :
    SetShape (s.select (names.map .sql)) := by
  unfold Statement.select Statement.become
  split
  · exact shape.record _
  · have recorded := shape.record
      ((names.map Operand.sql).findSome? (Operand.refusal? "SELECT list"))
    refine { recorded with selectList := ⟨names, named, ?_⟩ }
    exact embedded_names names

theorem SetShape.ifAccepts {clause : Clause} {change : Statement → Statement} (shape : SetShape s)
    (changed : SetShape (change s)) : SetShape (s.ifAccepts clause change) :=
  Statement.ifAccepts_preserves (fun e => shape.record (some e)) changed

theorem SetShape.readFrom (shape : SetShape s) (named : IsIdentifier name) :
    SetShape (s.readFrom (.sql name)) := by
  apply shape.ifAccepts
  have recorded := shape.record ((Operand.sql name).refusal? "FROM")
  exact { recorded with source := .inr ⟨name, named, rfl⟩, sourceAlias := rfl }

theorem SetShape.union (shape : SetShape s) (keepDuplicates : Bool) (given : SetBuilt member) :
    SetShape (s.union keepDuplicates member) := by
  apply shape.ifAccepts
  split
  · exact shape.record _
  next selects =>
    refine { shape with members := fun added inList => ?_ }
    rcases List.mem_append.mp inList with earlier | last
    · exact (shape.record member.firstError).members added earlier
    · obtain rfl : added = ⟨member, keepDuplicates⟩ := List.mem_singleton.mp last
      refine ⟨⟨given, selects⟩, fun recorded => ?_⟩
      exact (Option.or_eq_none_iff.mp recorded).2
  · exact shape.record _

theorem SetBuilt.shape (built : SetBuilt s) : SetShape s := by
  induction built with
  | start =>
    refine ⟨rfl, rfl, ⟨[], ?_, rfl⟩, .inl rfl, rfl, rfl, rfl, rfl, rfl, rfl, rfl, rfl, ?_⟩
    · rintro name ⟨⟩
    · rintro member ⟨⟩
  | select before named shape => exact shape.select named
  | readFrom before named shape => exact shape.readFrom named
  | union keepDuplicates before given shape _ => exact shape.union keepDuplicates given

end Shape

/-! ### The flat list of cores -/

/-- The text that an operand without a nested statement stands for. -/
def Operand.plainText : Operand → String
  | .sql text => text
  | .nested _ => ""

/-- The text of a SELECT without its union members. -/
def Statement.coreText (s : Statement) : String :=
  Layout.spaced [s.selectListText (s.selectList.map Operand.plainText),
    s.fromText (s.source.map Operand.plainText)]

mutual

/-- The cores behind the first one, each with its operator, however deep they are nested. -/
def Statement.flatMembers : Statement → List (Bool × String)
  | ⟨_, _, _, _, _, _, _, _, _, _, _, _, _, _, _, _, unionMembers, _, _, _⟩ =>
    UnionMember.flatAll unionMembers

def UnionMember.flatAll : List UnionMember → List (Bool × String)
  | [] => []
  | ⟨member, keepDuplicates⟩ :: rest =>
      (keepDuplicates, member.coreText) :: member.flatMembers ++ UnionMember.flatAll rest

end

/-- The core of one union member and those of the members in it. -/
def UnionMember.flat (member : UnionMember) : List (Bool × String) :=
  (member.keepDuplicates, member.statement.coreText) :: member.statement.flatMembers

theorem Statement.flatMembers_eq (s : Statement) :
    s.flatMembers = s.unionMembers.flatMap UnionMember.flat := by
  have listed (members : List UnionMember) :
      UnionMember.flatAll members = members.flatMap UnionMember.flat := by
    induction members with
    | nil => rfl
    | cons member rest ih =>
      obtain ⟨statement, keepDuplicates⟩ := member
      rw [UnionMember.flatAll, ih, List.flatMap_cons, UnionMember.flat]
  cases s
  exact listed _

/-- Induction over the members of compounds. -/
@[elab_as_elim]
theorem Statement.member_induction {motive : Statement → Prop}
    (step : ∀ s, (∀ member ∈ s.unionMembers, motive member.statement) → motive s)
    (s : Statement) : motive s := by
  induction s using Statement.nesting_induction with
  | step s ih =>
    refine step s fun member inList => ih .unionMember _ ?_
    exact List.mem_map.mpr ⟨member, inList, rfl⟩

/-- A core, and behind it each other core with its operator. -/
def compoundText (core : String) (members : List (Bool × String)) : String :=
  core ++ String.join (members.map fun member => " " ++ Layout.unionMember member.1 false member.2)

theorem unionMember_compoundText (keepDuplicates : Bool) (core : String)
    (members : List (Bool × String)) :
    " " ++ Layout.unionMember keepDuplicates false (compoundText core members) =
      String.join (((keepDuplicates, core) :: members).map fun member =>
        " " ++ Layout.unionMember member.1 false member.2) := by
  simp only [List.map_cons, String.join_cons, compoundText, Layout.unionMember, Bool.false_eq_true,
    if_false, String.append_assoc]

theorem intercalate_append_eq_join {parts : List String} (nonempty : parts ≠ [])
    (texts : List String) :
    " ".intercalate (parts ++ texts) =
      " ".intercalate parts ++ String.join (texts.map (" " ++ ·)) := by
  induction texts generalizing parts with
  | nil => simp
  | cons text rest ih =>
    rw [List.append_cons, ih (by simp), String.intercalate_append_of_ne_nil nonempty (by simp),
      String.intercalate_singleton, List.map_cons, String.join_cons]
    simp only [String.append_assoc]

theorem Layout.spaced_append_of_ne_empty {front texts : List String} (visible : spaced front ≠ "")
    (each : ∀ text ∈ texts, text ≠ "") :
    spaced (front ++ texts) = spaced front ++ String.join (texts.map (" " ++ ·)) := by
  have kept : texts.filter (· ≠ "") = texts := by
    simpa [List.filter_eq_self] using each
  have nonempty : front.filter (· ≠ "") ≠ [] := by
    intro empty
    rw [spaced, empty, String.intercalate_nil] at visible
    exact visible rfl
  rw [spaced, List.filter_append, kept, intercalate_append_eq_join nonempty]
  rfl

section Rendering

variable {s : Statement} {p : Pagination}

theorem mem_toList_intercalate {separator : String} {texts : List String} {c : Char}
    (member : c ∈ (separator.intercalate texts).toList) :
    c ∈ separator.toList ∨ ∃ text ∈ texts, c ∈ text.toList := by
  induction texts with
  | nil => simp at member
  | cons text rest ih =>
    cases rest with
    | nil =>
      rw [String.intercalate_singleton] at member
      exact .inr ⟨text, List.mem_cons_self, member⟩
    | cons next rest =>
      rw [String.intercalate_cons_cons, String.toList_append, String.toList_append,
        List.mem_append, List.mem_append] at member
      rcases member with (first | between) | later
      · exact .inr ⟨text, List.mem_cons_self, first⟩
      · exact .inl between
      · exact (ih later).imp_right fun ⟨found, inRest, holds⟩ =>
          ⟨found, List.mem_cons_of_mem text inRest, holds⟩

theorem IsIdentifier.notMem_toList {name : String} (named : IsIdentifier name) :
    'U' ∉ name.toList := by
  intro member
  rcases named.2 'U' member with lower | digit | underscore
  · exact absurd lower (by decide)
  · exact absurd digit (by decide)
  · exact absurd underscore (by decide)

/-- A core starts with its verb and does not hold the first letter of an operator. -/
def IsCore (text : String) : Prop := ∃ rest, text = "SELECT " ++ rest ∧ 'U' ∉ rest.toList

theorem SetShape.isCore (shape : SetShape s) : IsCore s.coreText := by
  obtain ⟨names, named, listed⟩ := shape.selectList
  have plain : s.selectList.map Operand.plainText = names := by
    rw [listed, List.map_map]
    exact List.map_id names
  have inNames : 'U' ∉ (Layout.commaList (names.filter (· ≠ ""))).toList := by
    intro member
    rcases mem_toList_intercalate member with inComma | ⟨name, inList, inName⟩
    · exact absurd inComma (by decide)
    · exact (named name (List.mem_filter.mp inList).1).notMem_toList inName
  obtain ⟨list, written, inList⟩ : ∃ list,
      s.selectListText (s.selectList.map Operand.plainText) = "SELECT " ++ list ∧
        'U' ∉ list.toList := by
    rw [plain, Statement.selectListText, shape.distinct]
    refine ⟨_, rfl, ?_⟩
    split
    · decide
    · exact inNames
  rw [Statement.coreText, written]
  rcases shape.source with absent | ⟨name, isName, present⟩
  · refine ⟨list, ?_, inList⟩
    rw [absent]
    simp [Layout.spaced, Statement.fromText]
  · refine ⟨list ++ " " ++ ("FROM " ++ name), ?_, ?_⟩
    · rw [present]
      simp [Layout.spaced, Statement.fromText, Operand.plainText, shape.sourceAlias,
        String.append_assoc]
    · have inName := isName.notMem_toList
      simp [inList, inName]

theorem SetShape.coreText_ne_empty (shape : SetShape s) : s.coreText ≠ "" := by
  obtain ⟨rest, same, _⟩ := shape.isCore
  rw [same]
  intro empty
  rw [String.append_eq_empty_iff] at empty
  exact absurd empty.1 (by decide)

/-- The text of a compound, from the texts of its members. -/
theorem SetShape.selectText_eq (shape : SetShape s) (unpaged : (p.clause? none 0).getD "" = "")
    {texts : List String} (rendered : (s.parts p).unionMembers = .ok texts)
    (each : ∀ text ∈ texts, text ≠ "") :
    s.selectText p (s.parts p) = .ok (s.coreText ++ String.join (texts.map (" " ++ ·))) := by
  have ctes : (s.parts p).ctes = .ok [] := by
    rw [Statement.parts, shape.ctes]
    rfl
  have items : (s.parts p).selectList = .ok (s.selectList.map Operand.plainText) := by
    obtain ⟨names, _, listed⟩ := shape.selectList
    refine mapM_eq_ok_map fun item inList => ?_
    rw [listed] at inList
    obtain ⟨name, _, rfl⟩ := List.mem_map.mp inList
    rfl
  have source : (s.parts p).source = .ok (s.source.map Operand.plainText) := by
    rw [Statement.parts]
    rcases shape.source with absent | ⟨name, _, present⟩
    · rw [absent]
      rfl
    · rw [present]
      rfl
  have joins : (s.parts p).joins = .ok [] := by
    rw [Statement.parts, shape.joins]
    rfl
  have conditions : (s.parts p).conditions = .ok [] := by
    rw [Statement.parts, shape.conditions]
    rfl
  have groups : s.groupText (s.parts p).groupConditions = .ok [] := by
    rw [Statement.groupText, shape.groupColumns]
  have joined : s.selectText p (s.parts p) = .ok (Layout.spaced
      ([s.selectListText (s.selectList.map Operand.plainText),
        s.fromText (s.source.map Operand.plainText)] ++ texts)) := by
    rw [Statement.selectText, ctes, items, source, joins, conditions, groups, rendered]
    simp [bind, Except.bind, pure, Except.pure, Layout.spaced, Statement.withText, Layout.clause,
      shape.orderTerms, shape.rowLimit, shape.rowOffset, unpaged, List.filter_append,
      List.filter_cons]
  rw [joined, Layout.spaced_append_of_ne_empty shape.coreText_ne_empty each]
  rfl

theorem join_flatMap_flat (members : List UnionMember) :
    String.join (members.map fun member => " " ++ Layout.unionMember member.keepDuplicates false
        (compoundText member.statement.coreText member.statement.flatMembers)) =
      String.join ((members.flatMap UnionMember.flat).map fun member =>
        " " ++ Layout.unionMember member.1 false member.2) := by
  induction members with
  | nil => rfl
  | cons member rest ih =>
    rw [List.map_cons, String.join_cons, ih, unionMember_compoundText, List.flatMap_cons,
      List.map_append, String.join_append, UnionMember.flat]

/-- A compound renders to its flat list, however its members are nested. -/
theorem SetQuery.render_eq (query : SetQuery s) (unpaged : (p.clause? none 0).getD "" = "")
    (clean : s.firstError = none) :
    s.render p = .ok (compoundText s.coreText s.flatMembers) := by
  induction s using Statement.member_induction with
  | step s ih =>
    have shape := query.built.shape
    have members : (s.parts p).unionMembers = .ok (s.unionMembers.map fun member =>
        Layout.unionMember member.keepDuplicates false
          (compoundText member.statement.coreText member.statement.flatMembers)) := by
      refine mapM_eq_ok_map fun member inList => ?_
      obtain ⟨inner, hidden⟩ := shape.members member inList
      have unarranged : member.statement.arrangesRows = false := by
        have innerShape := inner.built.shape
        simp [Statement.arrangesRows, innerShape.orderTerms, innerShape.rowLimit,
          innerShape.rowOffset]
      rw [UnionMember.render, ih member inList inner (hidden clean), unarranged]
      rfl
    have visible : ∀ text ∈ s.unionMembers.map fun member =>
        Layout.unionMember member.keepDuplicates false
          (compoundText member.statement.coreText member.statement.flatMembers), text ≠ "" := by
      intro text inTexts
      obtain ⟨member, _, rfl⟩ := List.mem_map.mp inTexts
      cases keep : member.keepDuplicates <;> simp [Layout.unionMember]
    rw [Statement.render_eq_bareText clean shape.derived, Statement.bareText, query.selects]
    dsimp only
    rw [shape.selectText_eq unpaged members visible, List.map_map, compoundText,
      Statement.flatMembers_eq, ← join_flatMap_flat]
    rfl

/-- A text splits at the first occurrence of a character in one way. -/
theorem append_cons_inj_of_first {α : Type} {a : α} {front front' back back' : List α}
    (inFront : a ∉ front) (inFront' : a ∉ front')
    (same : front ++ a :: back = front' ++ a :: back') : front = front' ∧ back = back' := by
  rcases List.append_eq_append_iff.mp same with ⟨more, rfl, rest⟩ | ⟨more, rfl, rest⟩
  · cases more with
    | nil => simpa using rest
    | cons b more =>
      obtain ⟨rfl, _⟩ := List.cons.inj rest
      simp at inFront'
  · cases more with
    | nil => simpa using rest.symm
    | cons b more =>
      obtain ⟨rfl, _⟩ := List.cons.inj rest
      simp at inFront

end Rendering

/-! ### Reading the text back -/

theorem IsCore.notMem_toList {text : String} (core : IsCore text) : 'U' ∉ text.toList := by
  obtain ⟨rest, rfl, clear⟩ := core
  rw [String.toList_append, List.mem_append, not_or]
  exact ⟨by decide, clear⟩

/-- Every core in the flat list is that of a compound. -/
theorem SetQuery.exists_of_mem_flatMembers {s : Statement} (query : SetQuery s) :
    ∀ core ∈ s.flatMembers, ∃ t, SetQuery t ∧ t.coreText = core.2 := by
  induction s using Statement.member_induction with
  | step s ih =>
    intro core inFlat
    rw [Statement.flatMembers_eq] at inFlat
    obtain ⟨member, inList, inMember⟩ := List.mem_flatMap.mp inFlat
    have inner := (query.built.shape.members member inList).1
    rcases List.mem_cons.mp inMember with rfl | deeper
    · exact ⟨member.statement, inner, rfl⟩
    · exact ih member inList inner core deeper

theorem SetQuery.isCore_of_mem_flatMembers {s : Statement} (query : SetQuery s) :
    ∀ core ∈ s.flatMembers, IsCore core.2 := by
  intro core inFlat
  obtain ⟨t, inner, same⟩ := query.exists_of_mem_flatMembers core inFlat
  rw [← same]
  exact inner.built.shape.isCore

theorem compoundText_cons (core next : String) (keepDuplicates : Bool)
    (members : List (Bool × String)) :
    compoundText core ((keepDuplicates, next) :: members) =
      core ++ " " ++ Layout.unionMember keepDuplicates false (compoundText next members) := by
  rw [String.append_assoc, unionMember_compoundText, compoundText]

/-- The operator in front of a member is told by the letter behind `UNION`. -/
theorem unionMember_injective {keep keep' : Bool} {core core' : String}
    {members members' : List (Bool × String)} (isCore : IsCore core) (isCore' : IsCore core')
    (same : Layout.unionMember keep false (compoundText core members) =
      Layout.unionMember keep' false (compoundText core' members')) :
    keep = keep' ∧ compoundText core members = compoundText core' members' := by
  obtain ⟨rest, rfl, _⟩ := isCore
  obtain ⟨rest', rfl, _⟩ := isCore'
  have letters := congrArg String.toList same
  cases keep <;> cases keep'
  · exact ⟨rfl, by simpa [Layout.unionMember] using same⟩
  · simp [Layout.unionMember, compoundText] at letters
  · simp [Layout.unionMember, compoundText] at letters
  · exact ⟨rfl, by simpa [Layout.unionMember] using same⟩

/-- An operator follows the space behind a core. -/
theorem toList_compoundText_cons (core next : String) (keepDuplicates : Bool)
    (members : List (Bool × String)) :
    ∃ back, (Layout.unionMember keepDuplicates false (compoundText next members)).toList =
        'U' :: back ∧
      (compoundText core ((keepDuplicates, next) :: members)).toList =
        (core ++ " ").toList ++ 'U' :: back := by
  obtain ⟨back, operator⟩ : ∃ back,
      (Layout.unionMember keepDuplicates false (compoundText next members)).toList =
        'U' :: back := by
    cases keepDuplicates with
    | false =>
      refine ⟨"NION ".toList ++ (compoundText next members).toList, ?_⟩
      simp [Layout.unionMember]
    | true =>
      refine ⟨"NION ALL ".toList ++ (compoundText next members).toList, ?_⟩
      simp [Layout.unionMember]
  refine ⟨back, operator, ?_⟩
  rw [compoundText_cons, String.toList_append, operator]

theorem IsCore.notMem_toList_spaced {text : String} (core : IsCore text) :
    'U' ∉ (text ++ " ").toList := by
  rw [String.toList_append, List.mem_append, not_or]
  exact ⟨core.notMem_toList, by decide⟩

/-- A single core is not the text of several. -/
theorem compoundText_nil_ne_cons {core core' : String} (isCore : IsCore core)
    (member : Bool × String) (members : List (Bool × String)) :
    compoundText core [] ≠ compoundText core' (member :: members) := by
  intro same
  obtain ⟨back, _, split⟩ := toList_compoundText_cons core' member.2 member.1 members
  have letters := congrArg String.toList same
  rw [split, compoundText, List.map_nil, String.join_nil, String.append_empty] at letters
  apply isCore.notMem_toList
  rw [letters]
  simp

/-- The text of a compound determines its flat list. -/
theorem compoundText_injective {core core' : String} {members members' : List (Bool × String)}
    (isCore : IsCore core) (isCore' : IsCore core')
    (each : ∀ member ∈ members, IsCore member.2) (each' : ∀ member ∈ members', IsCore member.2)
    (same : compoundText core members = compoundText core' members') :
    core = core' ∧ members = members' := by
  induction members generalizing core core' members' with
  | nil =>
    cases members' with
    | nil => simpa [compoundText] using same
    | cons member' rest' => exact absurd same (compoundText_nil_ne_cons isCore member' rest')
  | cons member rest ih =>
    cases members' with
    | nil => exact absurd same.symm (compoundText_nil_ne_cons isCore' member rest)
    | cons member' rest' =>
      -- Both texts go on with an operator, which starts at the first letter no core holds.
      obtain ⟨back, operator, split⟩ := toList_compoundText_cons core member.2 member.1 rest
      obtain ⟨back', operator', split'⟩ := toList_compoundText_cons core' member'.2 member'.1 rest'
      have letters := congrArg String.toList same
      rw [split, split'] at letters
      obtain ⟨fronts, rfl⟩ := append_cons_inj_of_first isCore.notMem_toList_spaced
        isCore'.notMem_toList_spaced letters
      have sameCore : core = core' := by
        simpa using String.toList_inj.mp fronts
      have sameOperator := String.toList_inj.mp (operator.trans operator'.symm)
      obtain ⟨first, others⟩ := List.forall_mem_cons.mp each
      obtain ⟨first', others'⟩ := List.forall_mem_cons.mp each'
      obtain ⟨sameKeep, sameText⟩ := unionMember_injective first first' sameOperator
      obtain ⟨sameNext, sameRest⟩ := ih first first' others others' sameText
      exact ⟨sameCore, by rw [sameRest, Prod.ext sameKeep sameNext]⟩

end SqlBuilder
