import SqlBuilder.Json.Token
import SqlBuilder.Pagination

/-!
# The grammar of JSON

The texts of each JSON value, stated apart from the reader: numbers by their parts, strings by the
code points that their characters and escapes stand for and by the text that those denote, arrays
and objects with white space wherever the grammar has room for it (`Json.Spells`). A value has many
texts. A string whose escapes leave half a character over has texts too, but denotes none itself.
-/
namespace SqlBuilder.Json

/-- White space between tokens. -/
def Gap (source : List Char) : Prop := ∀ c ∈ source, c ∈ [' ', '\t', '\n', '\r']

/-! ### Numbers -/

def AllDigits (source : List Char) : Prop := ∀ c ∈ source, c.isDigit = true

/-- Zero, or digits that do not start with it. -/
inductive WholePart : List Char → Prop
  | zero : WholePart ['0']
  | digits {first : Char} {rest : List Char} (leads : first.isDigit = true) (nonzero : first ≠ '0')
      (digits : AllDigits rest) : WholePart (first :: rest)

inductive FractionPart : List Char → Prop
  | absent : FractionPart []
  | digits {first : Char} {rest : List Char} (digits : AllDigits (first :: rest)) :
      FractionPart ('.' :: first :: rest)

inductive ExponentPart : List Char → Prop
  | absent : ExponentPart []
  | digits {mark first : Char} {sign rest : List Char} (marks : mark ∈ ['e', 'E'])
      (signs : sign ∈ [[], ['+'], ['-']]) (digits : AllDigits (first :: rest)) :
      ExponentPart (mark :: (sign ++ first :: rest))

inductive NumberText : List Char → Prop
  | unsigned {whole fraction exponent : List Char} (hasWhole : WholePart whole)
      (hasFraction : FractionPart fraction) (hasExponent : ExponentPart exponent) :
      NumberText (whole ++ (fraction ++ exponent))
  | negative {whole fraction exponent : List Char} (hasWhole : WholePart whole)
      (hasFraction : FractionPart fraction) (hasExponent : ExponentPart exponent) :
      NumberText ('-' :: (whole ++ (fraction ++ exponent)))

/-! ### Strings -/

/-- The escapes of one letter and the code points they stand for. -/
def shortEscapes : List (Char × Nat) :=
  [('"', 0x22), ('\\', 0x5C), ('/', 0x2F), ('b', 0x08), ('f', 0x0C), ('n', 0x0A), ('r', 0x0D),
    ('t', 0x09)]

def hexDigits : List (Char × Nat) :=
  [('0', 0), ('1', 1), ('2', 2), ('3', 3), ('4', 4), ('5', 5), ('6', 6), ('7', 7), ('8', 8),
    ('9', 9), ('a', 10), ('b', 11), ('c', 12), ('d', 13), ('e', 14), ('f', 15), ('A', 10),
    ('B', 11), ('C', 12), ('D', 13), ('E', 14), ('F', 15)]

/-- The code points that the inside of a quoted string stands for. -/
inductive Points : List Nat → List Char → Prop
  | nil : Points [] []
  | plain {c : Char} {points : List Nat} {source : List Char} (unquoted : c ≠ '"')
      (unescaped : c ≠ '\\') (visible : 0x20 ≤ c.toNat) (rest : Points points source) :
      Points (c.toNat :: points) (c :: source)
  | short {mark : Char} {point : Nat} {points : List Nat} {source : List Char}
      (known : (mark, point) ∈ shortEscapes) (rest : Points points source) :
      Points (point :: points) ('\\' :: mark :: source)
  | code {a b c d : Char} {i j k l : Nat} {points : List Nat} {source : List Char}
      (first : (a, i) ∈ hexDigits) (second : (b, j) ∈ hexDigits) (third : (c, k) ∈ hexDigits)
      (fourth : (d, l) ∈ hexDigits) (rest : Points points source) :
      Points ((((i * 16 + j) * 16 + k) * 16 + l) :: points)
        ('\\' :: 'u' :: a :: b :: c :: d :: source)

/-- The text that code points denote. A character stands for itself, or for the two halves that
make it up if it lies beyond the first 65536. -/
inductive Denotes : List Nat → List Char → Prop
  | nil : Denotes [] []
  | whole (c : Char) {points : List Nat} {text : List Char} (rest : Denotes points text) :
      Denotes (c.toNat :: points) (c :: text)
  | halves {c : Char} {points : List Nat} {text : List Char} (beyond : 0x10000 ≤ c.toNat)
      (rest : Denotes points text) :
      Denotes
        ((0xD800 + (c.toNat - 0x10000) / 0x400) :: (0xDC00 + (c.toNat - 0x10000) % 0x400) :: points)
        (c :: text)

/-- A quoted string and its text, if it has one. -/
inductive Quoted : Option String → List Char → Prop
  | text {text : String} {points : List Nat} {source : List Char} (inside : Points points source)
      (denotes : Denotes points text.toList) : Quoted (some text) ('"' :: (source ++ ['"']))
  | broken {points : List Nat} {source : List Char} (inside : Points points source)
      (unpaired : ∀ text, ¬ Denotes points text) : Quoted none ('"' :: (source ++ ['"']))

/-! ### Values -/

mutual

/-- The texts of a value, with any white space around them. -/
inductive Spells : Json → List Char → Prop
  | null : Spells .null "null".toList
  | true : Spells (.bool true) "true".toList
  | false : Spells (.bool false) "false".toList
  | number {literal : List Char} (wellFormed : NumberText literal) :
      Spells (.number literal) literal
  | string {text : Option String} {source : List Char} (quoted : Quoted text source) :
      Spells (.string text) source
  | array {items : List Json} {source : List Char} (listed : SpellsItems items source) :
      Spells (.array items) ('[' :: (source ++ [']']))
  | object {fields : List (Option String × Json)} {source : List Char}
      (listed : SpellsFields fields source) : Spells (.object fields) ('{' :: (source ++ ['}']))
  | padded {value : Json} {before source after : List Char} (front : Gap before)
      (inside : Spells value source) (back : Gap after) : Spells value (before ++ source ++ after)

/-- The texts of items with commas between them. -/
inductive SpellsItems : List Json → List Char → Prop
  | none {source : List Char} (empty : Gap source) : SpellsItems [] source
  | last {value : Json} {source : List Char} (item : Spells value source) :
      SpellsItems [value] source
  | more {value next : Json} {values : List Json} {source later : List Char}
      (item : Spells value source) (rest : SpellsItems (next :: values) later) :
      SpellsItems (value :: next :: values) (source ++ ',' :: later)

/-- The texts of fields with commas between them. The name of a field is a string. -/
inductive SpellsFields : List (Option String × Json) → List Char → Prop
  | none {source : List Char} (empty : Gap source) : SpellsFields [] source
  | last {name : Option String} {value : Json} {key source : List Char}
      (named : Spells (.string name) key) (valued : Spells value source) :
      SpellsFields [(name, value)] (key ++ ':' :: source)
  | more {name : Option String} {value : Json} {next : Option String × Json}
      {fields : List (Option String × Json)} {key source later : List Char}
      (named : Spells (.string name) key) (valued : Spells value source)
      (rest : SpellsFields (next :: fields) later) :
      SpellsFields ((name, value) :: next :: fields) (key ++ ':' :: (source ++ ',' :: later))

end

/-! ### Code points and text -/

/-- No character is half of one. -/
theorem scalar_toNat (c : Char) : c.toNat < 0xD800 ∨ 0xDFFF < c.toNat ∧ c.toNat < 0x110000 :=
  c.valid

theorem Points.lt {points : List Nat} {source : List Char} (inside : Points points source) :
    ∀ point ∈ points, point < 0x110000 := by
  induction inside with
  | nil => simp
  | @plain c points source unquoted unescaped visible rest ih =>
    have scalar : c.toNat < 0x110000 := by
      have := scalar_toNat c
      omega
    simpa [scalar] using ih
  | @short mark point points source known rest ih =>
    have small : ∀ escape ∈ shortEscapes, escape.2 < 0x110000 := by decide
    simpa [small _ known] using ih
  | code first second third fourth rest ih =>
    have digit : ∀ digit ∈ hexDigits, digit.2 < 16 := by decide
    have i := digit _ first
    have j := digit _ second
    have k := digit _ third
    have l := digit _ fourth
    simp only [List.mem_cons, forall_eq_or_imp]
    exact ⟨by omega, ih⟩

theorem textOf_of_denotes {points : List Nat} {text : List Char} (denotes : Denotes points text) :
    textOf points = some text := by
  induction denotes with
  | nil => rfl
  | @whole c points text rest ih =>
    have scalar := scalar_toNat c
    rw [textOf.eq_def]
    simp only [ih, Char.ofNat_toNat, Option.map_some]
    rw [if_neg (by omega), if_neg (by omega)]
  | @halves c points text beyond rest ih =>
    have scalar := scalar_toNat c
    have high : 0xD800 ≤ 0xD800 + (c.toNat - 0x10000) / 0x400 ∧
        0xD800 + (c.toNat - 0x10000) / 0x400 < 0xDC00 := by omega
    have low : 0xDC00 ≤ 0xDC00 + (c.toNat - 0x10000) % 0x400 ∧
        0xDC00 + (c.toNat - 0x10000) % 0x400 < 0xE000 := by omega
    have joined : 0x10000 + (0xD800 + (c.toNat - 0x10000) / 0x400 - 0xD800) * 0x400 +
        (0xDC00 + (c.toNat - 0x10000) % 0x400 - 0xDC00) = c.toNat := by omega
    rw [textOf, if_pos high]
    simp only [if_pos low, joined, Char.ofNat_toNat, ih, Option.map_some]

theorem toNat_ofNat_of_scalar {point : Nat}
    (scalar : point < 0xD800 ∨ 0xDFFF < point ∧ point < 0x110000) :
    (Char.ofNat point).toNat = point := by
  have valid : point.isValidChar := scalar
  rw [Char.ofNat, dif_pos valid]
  rfl

theorem denotes_of_textOf {points : List Nat} {text : List Char}
    (bounded : ∀ point ∈ points, point < 0x110000) (read : textOf points = some text) :
    Denotes points text := by
  fun_induction textOf points generalizing text with
  | case1 =>
    cases read
    exact .nil
  | case2 high isHigh low rest isLow ih =>
    obtain ⟨later, found, rfl⟩ := Option.map_eq_some_iff.mp read
    have denotes := ih (fun point member => bounded point (by simp [member])) found
    have joined : (Char.ofNat (0x10000 + (high - 0xD800) * 0x400 + (low - 0xDC00))).toNat =
        0x10000 + (high - 0xD800) * 0x400 + (low - 0xDC00) := toNat_ofNat_of_scalar (by omega)
    have split := Denotes.halves (by rw [joined]; omega) denotes
    have front : 0xD800 + (0x10000 + (high - 0xD800) * 0x400 + (low - 0xDC00) - 0x10000) / 0x400 =
        high := by omega
    have back : 0xDC00 + (0x10000 + (high - 0xD800) * 0x400 + (low - 0xDC00) - 0x10000) % 0x400 =
        low := by omega
    rwa [joined, front, back] at split
  | case3 | case4 | case5 => cases read
  | case6 point rest notHigh notLow ih =>
    obtain ⟨later, found, rfl⟩ := Option.map_eq_some_iff.mp read
    obtain ⟨below, bounded⟩ := List.forall_mem_cons.mp bounded
    have same : (Char.ofNat point).toNat = point := toNat_ofNat_of_scalar (by omega)
    have denotes := Denotes.whole (Char.ofNat point) (ih bounded found)
    rwa [same] at denotes

/-- What stands between the quotes, and the text that the reader makes of it. -/
theorem Quoted.exists_points {text : Option String} {source : List Char}
    (quoted : Quoted text source) :
    ∃ points inside, source = '"' :: (inside ++ ['"']) ∧ Points points inside ∧
      (textOf points).map String.ofList = text := by
  cases quoted with
  | @text text points inside spelled denotes =>
    refine ⟨points, inside, rfl, spelled, ?_⟩
    rw [textOf_of_denotes denotes, Option.map_some, String.ofList_toList]
  | @broken points inside spelled unpaired =>
    refine ⟨points, inside, rfl, spelled, ?_⟩
    cases found : textOf points with
    | none => rfl
    | some text => exact absurd (denotes_of_textOf spelled.lt found) (unpaired text)

/-! ### Plain spellings -/

theorem denotes_self (text : List Char) : Denotes (text.map Char.toNat) text := by
  induction text with
  | nil => exact .nil
  | cons c rest ih => exact .whole c ih

theorem points_plain {source : List Char}
    (plain : ∀ c ∈ source, c ≠ '"' ∧ c ≠ '\\' ∧ 0x20 ≤ c.toNat) :
    Points (source.map Char.toNat) source := by
  induction source with
  | nil => exact .nil
  | cons c rest ih =>
    obtain ⟨⟨unquoted, unescaped, visible⟩, later⟩ := List.forall_mem_cons.mp plain
    exact .plain unquoted unescaped visible (ih later)

/-- A text without characters that need an escape stands between quotes as it is. -/
theorem spells_plain (text : String)
    (plain : ∀ c ∈ text.toList, c ≠ '"' ∧ c ≠ '\\' ∧ 0x20 ≤ c.toNat) :
    Spells (.string (some text)) ('"' :: (text.toList ++ ['"'])) :=
  .string (.text (points_plain plain) (denotes_self text.toList))

/-- Positive numbers are written without a leading zero. -/
theorem exists_toDigits_eq_cons {n : Nat} (positive : 0 < n) :
    ∃ first rest, Nat.toDigits 10 n = first :: rest ∧ first ≠ '0' := by
  induction n using Nat.strongRecOn with
  | ind n ih =>
    by_cases small : n < 10
    · refine ⟨n.digitChar, [], Nat.toDigits_of_lt_base small, ?_⟩
      rw [Ne, Nat.digitChar_eq_zero]
      omega
    · obtain ⟨first, rest, leading, nonzero⟩ := ih (n / 10) (by omega) (by omega)
      refine ⟨first, rest ++ [(n % 10).digitChar], ?_, nonzero⟩
      rw [Nat.toDigits_of_base_le (by decide) (Nat.le_of_not_lt small), leading]
      rfl

theorem numberText_decimal (n : UInt64) : NumberText (decimal n).toList := by
  have whole : WholePart (decimal n).toList := by
    rcases Nat.eq_zero_or_pos n.toNat with zero | positive
    · rw [decimal, zero]
      exact .zero
    · obtain ⟨first, rest, leading, nonzero⟩ := exists_toDigits_eq_cons positive
      have digits : AllDigits (decimal n).toList := fun c => isDigit_of_mem_decimal
      rw [decimal, Nat.toList_repr, leading] at digits ⊢
      obtain ⟨leads, later⟩ := List.forall_mem_cons.mp digits
      exact .digits leads nonzero later
  have number := NumberText.unsigned whole .absent .absent
  rwa [List.append_nil, List.append_nil] at number

end SqlBuilder.Json
