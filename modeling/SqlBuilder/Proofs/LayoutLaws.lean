import Mathlib.Data.List.Chain
import SqlBuilder.Rendering.Layout
import SqlBuilder.Settings.Basic

/-!
# What the layout keeps

Two properties of texts that the layout of a statement keeps: balanced parentheses and the absence
of stray spaces. Both hold of fixed words, of texts behind one another, in parentheses, and on
either side of a space; for the second the texts beside the space must not be empty.
`Layout.Keeps` is what they share, and every form of the layout is shown to keep what has it.
-/
namespace SqlBuilder

namespace Text

/-- However far the text is read, it closes at most what it has opened, and in the end all of it. -/
structure Balanced (text : String) : Prop where
  opened : ∀ n, (text.toList.take n).count ')' ≤ (text.toList.take n).count '('
  closed : text.toList.count ')' = text.toList.count '('

/-- No space at either end and none behind another. -/
structure Tight (text : String) : Prop where
  first : text.toList.head? ≠ some ' '
  last : text.toList.getLast? ≠ some ' '
  inner : text.toList.IsChain fun c d => ¬ (c = ' ' ∧ d = ' ')

/-- Words with single spaces between them, or nothing. -/
structure Plain (text : String) : Prop where
  tight : Tight text
  unopened : '(' ∉ text.toList
  unclosed : ')' ∉ text.toList

variable {text a b : String}

/-- Prefixes longer than the text need not be looked at. -/
theorem balanced_iff :
    Balanced text ↔
      (∀ n ≤ text.toList.length,
        (text.toList.take n).count ')' ≤ (text.toList.take n).count '(') ∧
      text.toList.count ')' = text.toList.count '(' := by
  constructor
  · rintro ⟨opened, closed⟩
    exact ⟨fun n _ => opened n, closed⟩
  · rintro ⟨opened, closed⟩
    refine ⟨fun n => ?_, closed⟩
    by_cases inside : n ≤ text.toList.length
    · exact opened n inside
    · rw [List.take_of_length_le (by omega), closed]

theorem tight_iff :
    Tight text ↔ text.toList.head? ≠ some ' ' ∧ text.toList.getLast? ≠ some ' ' ∧
      text.toList.IsChain fun c d => ¬ (c = ' ' ∧ d = ' ') :=
  ⟨fun ⟨first, last, inner⟩ => ⟨first, last, inner⟩,
    fun ⟨first, last, inner⟩ => ⟨first, last, inner⟩⟩

theorem plain_iff : Plain text ↔ Tight text ∧ '(' ∉ text.toList ∧ ')' ∉ text.toList :=
  ⟨fun ⟨tight, unopened, unclosed⟩ => ⟨tight, unopened, unclosed⟩,
    fun ⟨tight, unopened, unclosed⟩ => ⟨tight, unopened, unclosed⟩⟩

instance : DecidablePred Balanced := fun _ => decidable_of_iff' _ balanced_iff

instance : DecidablePred Tight := fun _ => decidable_of_iff' _ tight_iff

instance : DecidablePred Plain := fun _ => decidable_of_iff' _ plain_iff

namespace Balanced

theorem of_not_mem (unopened : '(' ∉ text.toList) (unclosed : ')' ∉ text.toList) :
    Balanced text where
  opened n := by
    rw [List.count_eq_zero_of_not_mem fun member => unclosed (List.mem_of_mem_take member)]
    exact Nat.zero_le _
  closed := by
    rw [List.count_eq_zero_of_not_mem unopened, List.count_eq_zero_of_not_mem unclosed]

theorem append (first : Balanced a) (second : Balanced b) : Balanced (a ++ b) where
  opened n := by
    rw [String.toList_append, List.take_append, List.count_append, List.count_append]
    exact Nat.add_le_add (first.opened n) (second.opened _)
  closed := by
    rw [String.toList_append, List.count_append, List.count_append, first.closed, second.closed]

theorem parenthesized (balanced : Balanced text) : Balanced (Layout.parenthesized text) := by
  have enclosed : (Layout.parenthesized text).toList = '(' :: (text.toList ++ [')']) := by
    simp [Layout.parenthesized]
  constructor
  · intro n
    rw [enclosed]
    cases n with
    | zero => exact Nat.le_refl _
    | succ n =>
      -- The closing parenthesis, if it is read at all, is paid for by the first one.
      have atEnd : ([')'].take (n - text.toList.length)).count ')' ≤ 1 :=
        Nat.le_trans List.count_le_length (List.length_take_le' ..)
      have inside := balanced.opened n
      rw [List.take_succ_cons, List.take_append]
      simp only [List.count_cons, List.count_append, Char.reduceBEq, Bool.false_eq_true, if_false,
        if_true]
      omega
  · rw [enclosed]
    simp [balanced.closed]

end Balanced

namespace Tight

theorem of_not_mem (unspaced : ' ' ∉ text.toList) : Tight text where
  first start := unspaced (List.mem_of_mem_head? start)
  last stop := unspaced (List.mem_of_mem_getLast? stop)
  inner := by
    refine List.Pairwise.isChain (List.pairwise_of_forall_mem_list ?_)
    rintro c member d _ ⟨rfl, _⟩
    exact unspaced member

theorem append (first : Tight a) (second : Tight b) : Tight (a ++ b) where
  first := by
    rw [String.toList_append, List.head?_append]
    cases start : a.toList.head? with
    | none => exact second.first
    | some c =>
      rw [← start]
      simpa [start] using first.first
  last := by
    rw [String.toList_append, List.getLast?_append]
    cases stop : b.toList.getLast? with
    | none => exact first.last
    | some c => simpa [stop] using second.last
  inner := by
    rw [String.toList_append, List.isChain_append]
    refine ⟨first.inner, second.inner, ?_⟩
    rintro c stop d _ ⟨rfl, _⟩
    exact first.last stop

/-- A space between two texts needs a text on either side. -/
theorem spaced (first : Tight a) (second : Tight b) (filled : a ≠ "") (filled' : b ≠ "") :
    Tight (a ++ " " ++ b) := by
  have left : a.toList ≠ [] := by simpa using filled
  have right : b.toList ≠ [] := by simpa using filled'
  have same : (a ++ " " ++ b).toList = a.toList ++ ' ' :: b.toList := by simp
  constructor
  · rw [same, List.head?_append_of_ne_nil _ left]
    exact first.first
  · rw [same, List.getLast?_append_of_ne_nil _ (List.cons_ne_nil _ _),
      List.getLast?_cons_of_ne_nil right]
    exact second.last
  · rw [same, List.isChain_append]
    refine ⟨first.inner, List.isChain_cons.mpr ⟨?_, second.inner⟩, ?_⟩
    · rintro d start ⟨_, rfl⟩
      exact second.first start
    · rintro c stop d _ ⟨rfl, _⟩
      exact first.last stop

end Tight
end Text

namespace Layout

/-- A property of texts that goes from texts to their layout. A strict one needs texts on both sides
of a space. -/
structure Keeps (strict : Prop) (Good : String → Prop) : Prop where
  plain : ∀ {text}, Text.Plain text → Good text
  append : ∀ {a b}, Good a → Good b → Good (a ++ b)
  parenthesized : ∀ {text}, Good text → Good (parenthesized text)
  spaced : ∀ {a b}, Good a → Good b → (strict → a ≠ "" ∧ b ≠ "") → Good (a ++ " " ++ b)

theorem keeps_balanced : Keeps False Text.Balanced where
  plain plain := .of_not_mem plain.unopened plain.unclosed
  append := .append
  parenthesized := .parenthesized
  spaced first second _ := (first.append (.of_not_mem (by decide) (by decide))).append second

theorem keeps_tight : Keeps True Text.Tight where
  plain plain := plain.tight
  append := .append
  parenthesized tight := (Text.Tight.append (by decide) tight).append (by decide)
  spaced first second filled := first.spaced second (filled trivial).1 (filled trivial).2

/-- The text is good and may stand beside a space. -/
structure Fits (strict : Prop) (Good : String → Prop) (text : String) : Prop where
  good : Good text
  filled : strict → text ≠ ""

/-- The separator may stand between two texts. -/
def Glues (strict : Prop) (Good : String → Prop) (separator : String) : Prop :=
  ∀ {a b}, Fits strict Good a → Fits strict Good b → Fits strict Good (a ++ separator ++ b)

section Lists

variable {strict : Prop} {Good : String → Prop} {separator : String} {texts : List String}

theorem fits_intercalate (glues : Glues strict Good separator) (filled : texts ≠ [])
    (each : ∀ text ∈ texts, Fits strict Good text) :
    Fits strict Good (separator.intercalate texts) := by
  induction texts with
  | nil => exact absurd rfl filled
  | cons text rest ih =>
    obtain ⟨first, later⟩ := List.forall_mem_cons.mp each
    cases rest with
    | nil =>
      rw [String.intercalate_singleton]
      exact first
    | cons next rest =>
      rw [String.intercalate_cons_cons]
      exact glues first (ih (List.cons_ne_nil _ _) later)

/-- What is left when empty texts are left out may stand beside a space. -/
theorem fits_of_mem_filter (each : ∀ text ∈ texts, Good text) :
    ∀ text ∈ texts.filter (· ≠ ""), Fits strict Good text := by
  intro text member
  obtain ⟨inList, filled⟩ := List.mem_filter.mp member
  exact ⟨each text inList, fun _ => of_decide_eq_true filled⟩

theorem intercalate_ne_empty (some_text : texts ≠ []) (each : ∀ text ∈ texts, text ≠ "") :
    separator.intercalate texts ≠ "" := by
  -- With every text taken to be good, being filled is all that is left to be kept.
  have fits : Fits True (fun _ => True) (separator.intercalate texts) := by
    refine fits_intercalate ?_ some_text fun text member => ⟨trivial, fun _ => each text member⟩
    exact fun first _ => ⟨trivial, fun _ => by simp [first.filled trivial]⟩
  exact fits.filled trivial

theorem spaced_ne_empty {text : String} (member : text ∈ texts) (filled : text ≠ "") :
    spaced texts ≠ "" := by
  have inFiltered : text ∈ texts.filter (· ≠ "") := by simp [member, filled]
  refine intercalate_ne_empty (List.ne_nil_of_mem inFiltered) fun shown inList => ?_
  exact of_decide_eq_true (List.mem_filter.mp inList).2

end Lists

namespace Keeps

variable {strict : Prop} {Good : String → Prop} (keeps : Keeps strict Good)
  {text a b separator : String} {texts : List String}

include keeps

theorem empty : Good "" := keeps.plain (by decide)

theorem word (text : String) (fixed : Text.Plain text ∧ text ≠ "" := by decide) :
    Fits strict Good text :=
  ⟨keeps.plain fixed.1, fun _ => fixed.2⟩

theorem fits_append (first : Good a) (second : Fits strict Good b) :
    Fits strict Good (a ++ b) where
  good := keeps.append first second.good
  filled needed empty := second.filled needed (String.append_eq_empty_iff.mp empty).2

theorem fits_spaced (first : Fits strict Good a) (second : Fits strict Good b) :
    Fits strict Good (a ++ " " ++ b) where
  good := keeps.spaced first.good second.good fun needed =>
    ⟨first.filled needed, second.filled needed⟩
  filled needed empty := second.filled needed (String.append_eq_empty_iff.mp empty).2

theorem fits_trailing (first : Fits strict Good a) (second : Fits strict Good b) :
    Fits strict Good (a ++ (" " ++ b)) := by
  rw [← String.append_assoc]
  exact keeps.fits_spaced first second

theorem fits_parenthesized (good : Good text) :
    Fits strict Good (Layout.parenthesized text) where
  good := keeps.parenthesized good
  filled _ := by simp [Layout.parenthesized]

theorem fits_leading {optional : Option String}
    (given : ∀ text ∈ optional, Fits strict Good text) (fits : Fits strict Good text) :
    Fits strict Good (leading optional ++ text) := by
  cases optional with
  | none => exact keeps.fits_append keeps.empty fits
  | some first => exact keeps.fits_spaced (given first rfl) fits

/-! ### Lists -/

theorem glues_comma : Glues strict Good "," := by
  intro a b first second
  exact keeps.fits_append (keeps.append first.good (keeps.plain (by decide))) second

theorem glues_commaSpace : Glues strict Good ", " := by
  intro a b first second
  have comma : Fits strict Good (a ++ ",") := keeps.fits_append first.good (keeps.word ",")
  have both := keeps.fits_spaced comma second
  rwa [show a ++ "," ++ " " = a ++ ", " from String.append_assoc] at both

theorem glues_word (word : String) (fixed : Text.Plain word ∧ word ≠ "" := by decide) :
    Glues strict Good (" " ++ word ++ " ") := by
  intro a b first second
  rw [← String.append_assoc, ← String.append_assoc]
  exact keeps.fits_spaced (keeps.fits_spaced first (keeps.word word fixed)) second

theorem intercalate (glues : Glues strict Good separator)
    (each : ∀ text ∈ texts, Fits strict Good text) : Good (separator.intercalate texts) := by
  by_cases absent : texts = []
  · rw [absent]
    exact keeps.empty
  · exact (fits_intercalate glues absent each).good

theorem commaList (each : ∀ text ∈ texts, Fits strict Good text) :
    Good (Layout.commaList texts) :=
  keeps.intercalate keeps.glues_comma each

theorem spacedList (each : ∀ text ∈ texts, Good text) : Good (Layout.spaced texts) :=
  keeps.intercalate keeps.fits_spaced (fits_of_mem_filter each)

theorem fits_spacedList (each : ∀ text ∈ texts, Good text)
    (shown : ∃ text ∈ texts, Fits strict Good text) :
    Fits strict Good (Layout.spaced texts) where
  good := keeps.spacedList each
  filled needed := by
    obtain ⟨text, member, fits⟩ := shown
    exact spaced_ne_empty member (fits.filled needed)

/-! ### Clauses and their parts -/

theorem clause (keyword : String) (glues : Glues strict Good separator)
    (each : ∀ text ∈ texts, Fits strict Good text)
    (fixed : Text.Plain keyword ∧ keyword ≠ "" := by decide) :
    Good (Layout.clause keyword separator texts) := by
  cases texts with
  | nil => exact keeps.empty
  | cons text rest =>
    have listed := fits_intercalate glues (List.cons_ne_nil text rest) each
    exact (keeps.fits_spaced (keeps.word keyword fixed) listed).good

theorem condition (connector : Option Connector) (modifier : Option Modifier) {body : String}
    (fits : Fits strict Good body) :
    Fits strict Good (Layout.condition connector modifier body) := by
  have connected (connector : Connector) : Fits strict Good connector.keyword := by
    cases connector <;> exact keeps.word _
  have modified (modifier : Modifier) : Fits strict Good modifier.keyword := by
    cases modifier <;> exact keeps.word _
  rw [Layout.condition, String.append_assoc]
  refine keeps.fits_leading ?_ (keeps.fits_leading ?_ fits)
  · simp [connected]
  · simp [modified]

theorem join (form : JoinForm) {target : String} {condition : Option String}
    (fits : Fits strict Good target) (given : ∀ text ∈ condition, Fits strict Good text) :
    Good (Layout.join form target condition) := by
  have word : Fits strict Good form.keyword := by
    cases form <;> exact keeps.word _
  have joined := keeps.fits_spaced word fits
  cases condition with
  | none => exact joined.good
  | some condition =>
    exact ((keeps.glues_word "ON") joined (given condition rfl)).good

theorem unionMember (keepDuplicates ownArrangement : Bool) (fits : Fits strict Good text) :
    Good (Layout.unionMember keepDuplicates ownArrangement text) := by
  have member : Fits strict Good
      (if ownArrangement then Layout.parenthesized text else text) := by
    split
    · exact keeps.fits_parenthesized fits.good
    · exact fits
  cases keepDuplicates with
  | true => exact (keeps.fits_spaced (keeps.word "UNION ALL") member).good
  | false => exact (keeps.fits_spaced (keeps.word "UNION") member).good

theorem cte {name : String} {columns : Option (List String)} {body : String}
    (named : Fits strict Good name)
    (listed : ∀ names ∈ columns, ∀ column ∈ names, Fits strict Good column) (good : Good body) :
    Fits strict Good (Layout.cte name columns body) := by
  have lists : ∀ text ∈ columns.map fun names => Layout.parenthesized (Layout.commaList names),
      Fits strict Good text := by
    intro text written
    obtain ⟨names, given, rfl⟩ := Option.map_eq_some_iff.mp written
    exact keeps.fits_parenthesized (keeps.commaList (listed names given))
  have enclosed := keeps.fits_spaced (keeps.word "AS") (keeps.fits_parenthesized good)
  have whole := keeps.fits_spaced named (keeps.fits_leading lists enclosed)
  rwa [← String.append_assoc, ← String.append_assoc] at whole

theorem orderTerm {term : String × Direction} (fits : Fits strict Good term.1) :
    Fits strict Good (Layout.orderTerm term) := by
  refine keeps.fits_spaced fits ?_
  cases term.2 <;> exact keeps.word _

theorem insertedValues {columns values : List String}
    (columnsFit : ∀ column ∈ columns, Fits strict Good column)
    (valuesFit : ∀ value ∈ values, Fits strict Good value) :
    Fits strict Good (Layout.insertedValues columns values) := by
  have listed := keeps.fits_parenthesized (keeps.commaList columnsFit)
  have given := keeps.fits_parenthesized (keeps.commaList valuesFit)
  exact (keeps.glues_word "VALUES") listed given

theorem derived {aliasName : Option String} (good : Good text)
    (named : ∀ name ∈ aliasName, Fits strict Good name) :
    Fits strict Good (Layout.derived aliasName text) := by
  have enclosed := keeps.fits_parenthesized good
  cases aliasName with
  | none => exact enclosed
  | some name => exact (keeps.glues_word "AS") enclosed (named name rfl)

theorem number (n : UInt64) : Fits strict Good (decimal n) := by
  have absent (c : Char) (other : c.isDigit = false) : c ∉ (decimal n).toList := by
    intro member
    rw [isDigit_of_mem_decimal member] at other
    cases other
  refine keeps.word (decimal n) ⟨⟨.of_not_mem ?_, ?_, ?_⟩, ?_⟩
  · exact absent ' ' rfl
  · exact absent '(' rfl
  · exact absent ')' rfl
  · simp [decimal]

/-- Both dialects give good clauses. -/
theorem page (dialect : Dialect) {limit : Option UInt64} {offset : UInt64} {clause : String}
    (given : dialect.pagination.clause? limit offset = some clause) : Good clause := by
  have counted (word : String) (n : UInt64)
      (fixed : Text.Plain word ∧ word ≠ "" := by decide) :
      Fits strict Good (word ++ " " ++ decimal n) :=
    keeps.fits_spaced (keeps.word word fixed) (keeps.number n)
  cases dialect <;> cases limit <;>
    simp only [Dialect.pagination, Pagination.limitOffset, Pagination.offsetFetch] at given
  case standard.none =>
    split at given <;> cases given
    exact (counted "OFFSET" offset).good
  case standard.some limit =>
    split at given <;> cases given
    · exact (counted "LIMIT" limit).good
    · exact ((keeps.glues_word "OFFSET") (counted "LIMIT" limit) (keeps.number offset)).good
  case sqlServer.none =>
    split at given <;> cases given
    exact (keeps.fits_trailing (counted "OFFSET" offset) (keeps.word "ROWS")).good
  case sqlServer.some limit =>
    cases given
    have fetched := (keeps.glues_word "ROWS FETCH NEXT") (counted "OFFSET" offset)
      (keeps.number limit)
    exact (keeps.fits_trailing fetched (keeps.word "ROWS ONLY")).good

end Keeps
end Layout
end SqlBuilder
