import SqlBuilder.Json.Reader
import SqlBuilder.Proofs.JsonGrammar

/-!
# Reading what the grammar spells

The reader takes every text of a value to that value (`Json.read?_of_spells`). The scanner is shown
to find the tokens of the value whatever the spelling: behind a number it has not decided yet where
the token ends, so what is carried along is that the scan settles into its tokens with the next
character (`Scan.Settled`). The machine over tokens is then shown to build the value from them,
inside any arrays and objects that are still open.
-/
namespace SqlBuilder.Json

/-! ### Numbers -/

section Numbers

variable {digits rest whole fraction exponent literal : List Char}

/-- A run of digits ends in front of what starts with none. -/
def Breaks (rest : List Char) : Prop :=
  rest.takeWhile Char.isDigit = [] ∧ rest.dropWhile Char.isDigit = rest

theorem breaks_cons {c : Char} (other : c.isDigit = false) : Breaks (c :: rest) := by
  simp [Breaks, other]

theorem takeWhile_digits (run : AllDigits digits) (breaks : Breaks rest) :
    (digits ++ rest).takeWhile Char.isDigit = digits := by
  rw [List.takeWhile_append_of_pos run, breaks.1, List.append_nil]

theorem dropWhile_digits (run : AllDigits digits) (breaks : Breaks rest) :
    (digits ++ rest).dropWhile Char.isDigit = rest := by
  rw [List.dropWhile_append_of_pos run, breaks.2]

theorem ExponentPart.breaks (part : ExponentPart exponent) : Breaks exponent := by
  cases part with
  | absent => exact ⟨rfl, rfl⟩
  | digits marks signs digits =>
    refine breaks_cons ?_
    have letters : ∀ mark ∈ ['e', 'E'], mark.isDigit = false := by simp
    exact letters _ marks

theorem FractionPart.breaks (part : FractionPart fraction) (later : ExponentPart exponent) :
    Breaks (fraction ++ exponent) := by
  cases part with
  | absent => exact later.breaks
  | digits digits => exact breaks_cons rfl

theorem ExponentPart.isExponent (part : ExponentPart exponent) : isExponent exponent = true := by
  cases part with
  | absent => rfl
  | @digits mark first sign rest marks signs digits =>
    have marked : mark = 'e' ∨ mark = 'E' := by simpa using marks
    have run : (first :: rest).all Char.isDigit = true := List.all_eq_true.mpr digits
    have leads : first.isDigit = true := digits first List.mem_cons_self
    have unsigned : first ≠ '+' ∧ first ≠ '-' := by
      constructor <;> rintro rfl <;> cases leads
    simp only [List.mem_cons, List.not_mem_nil, or_false] at signs
    rcases signs with rfl | rfl | rfl
    · unfold Json.isExponent
      simp only [List.nil_append]
      split <;> simp_all
    · simp [Json.isExponent, marked, run]
    · simp [Json.isExponent, marked, run]

theorem FractionPart.isFractionAndExponent (part : FractionPart fraction)
    (later : ExponentPart exponent) : isFractionAndExponent (fraction ++ exponent) = true := by
  cases part with
  | absent =>
    have whole := later.isExponent
    cases later with
    | absent => rfl
    | @digits mark first sign rest marks signs digits =>
      have noPoint : mark ≠ '.' := by
        rintro rfl
        simp at marks
      unfold Json.isFractionAndExponent
      simp_all
  | @digits first rest digits =>
    have taken := takeWhile_digits digits later.breaks
    have dropped := dropWhile_digits digits later.breaks
    simp only [List.cons_append] at taken dropped ⊢
    simp only [Json.isFractionAndExponent, taken, dropped, later.isExponent]
    rfl

theorem WholePart.allDigits (part : WholePart whole) : AllDigits whole := by
  cases part with
  | zero => simp [AllDigits]
  | digits leads nonzero digits => exact List.forall_mem_cons.mpr ⟨leads, digits⟩

theorem WholePart.isUnsigned (part : WholePart whole) (hasFraction : FractionPart fraction)
    (hasExponent : ExponentPart exponent) :
    isUnsigned (whole ++ (fraction ++ exponent)) = true := by
  have breaks := hasFraction.breaks hasExponent
  have ends := hasFraction.isFractionAndExponent hasExponent
  rw [Json.isUnsigned, takeWhile_digits part.allDigits breaks,
    dropWhile_digits part.allDigits breaks]
  cases part with
  | zero => exact ends
  | digits leads nonzero digits =>
    simp only [ends]
    split <;> simp_all

theorem NumberText.isNumber (number : NumberText literal) : isNumber literal = true := by
  cases number with
  | negative hasWhole hasFraction hasExponent =>
    exact hasWhole.isUnsigned hasFraction hasExponent
  | unsigned hasWhole hasFraction hasExponent =>
    have unsigned := hasWhole.isUnsigned hasFraction hasExponent
    unfold Json.isNumber
    split
    next rest start =>
      -- A whole part starts with a digit, so no minus sign is taken off.
      cases hasWhole with
      | zero => cases start
      | digits leads nonzero digits =>
        cases start
        cases leads
    next => exact unsigned

theorem isBare_of_isDigit {c : Char} (digit : c.isDigit = true) : isBare c = true := by
  simp [isBare, Char.isAlphanum, digit]

theorem AllDigits.isBare (run : AllDigits digits) : ∀ c ∈ digits, isBare c = true :=
  fun c member => isBare_of_isDigit (run c member)

theorem FractionPart.isBare (part : FractionPart fraction) : ∀ c ∈ fraction, isBare c = true := by
  cases part with
  | absent => simp
  | digits digits => exact List.forall_mem_cons.mpr ⟨rfl, digits.isBare⟩

theorem ExponentPart.isBare (part : ExponentPart exponent) : ∀ c ∈ exponent, isBare c = true := by
  cases part with
  | absent => simp
  | digits marks signs digits =>
    have letters : ∀ mark ∈ ['e', 'E'], Json.isBare mark = true := by simp [Json.isBare]
    have signed : ∀ sign ∈ [[], ['+'], ['-']], ∀ c ∈ sign, Json.isBare c = true := by
      simp [Json.isBare]
    refine List.forall_mem_cons.mpr ⟨letters _ marks, List.forall_mem_append.mpr ⟨?_, ?_⟩⟩
    · exact signed _ signs
    · exact digits.isBare

theorem WholePart.isBare (part : WholePart whole) (hasFraction : FractionPart fraction)
    (hasExponent : ExponentPart exponent) :
    ∀ c ∈ whole ++ (fraction ++ exponent), isBare c = true :=
  List.forall_mem_append.mpr ⟨part.allDigits.isBare,
    List.forall_mem_append.mpr ⟨hasFraction.isBare, hasExponent.isBare⟩⟩

theorem NumberText.isBare (number : NumberText literal) : ∀ c ∈ literal, isBare c = true := by
  cases number with
  | unsigned hasWhole hasFraction hasExponent => exact hasWhole.isBare hasFraction hasExponent
  | negative hasWhole hasFraction hasExponent =>
    exact List.forall_mem_cons.mpr ⟨rfl, hasWhole.isBare hasFraction hasExponent⟩

theorem NumberText.bareToken? (number : NumberText literal) :
    bareToken? literal = some (.scalar (.number literal)) := by
  have numeric := number.isNumber
  have other {word : List Char} (verbal : Json.isNumber word = false) : literal ≠ word := by
    rintro rfl
    rw [numeric] at verbal
    cases verbal
  rw [Json.bareToken?, if_neg (other (by decide)), if_neg (other (by decide)),
    if_neg (other (by decide)), if_pos numeric]

theorem NumberText.ne_nil (number : NumberText literal) : literal ≠ [] := by
  rintro rfl
  cases number.isNumber

end Numbers

/-! ### Strings -/

section Strings

variable {points : List Nat} {source : List Char}

theorem escaped?_of_mem {mark : Char} {point : Nat} (known : (mark, point) ∈ shortEscapes) :
    mark ≠ 'u' ∧ escaped? mark = some point := by
  have each : ∀ escape ∈ shortEscapes,
      escape.1 ≠ 'u' ∧ escaped? escape.1 = some escape.2 := by decide
  exact each _ known

theorem hexDigit?_of_mem {c : Char} {value : Nat} (known : (c, value) ∈ hexDigits) :
    hexDigit? c = some value := by
  have each : ∀ digit ∈ hexDigits, hexDigit? digit.1 = some digit.2 := by decide
  exact each _ known

/-- Between the quotes the scanner collects the code points. -/
theorem Points.foldlM_step (inside : Points points source) (tokens : List Token)
    (before : List Nat) :
    source.foldlM Scan.step ⟨tokens, .string before⟩ =
      some ⟨tokens, .string (points.reverse ++ before)⟩ := by
  induction inside generalizing before with
  | nil => rfl
  | plain unquoted unescaped visible rest ih =>
    simp [List.foldlM_cons, Scan.step, unquoted, unescaped, Nat.not_lt.mpr visible, ih]
  | short known rest ih =>
    obtain ⟨other, escaped⟩ := escaped?_of_mem known
    simp [List.foldlM_cons, Scan.step, other, escaped, ih]
  | code first second third fourth rest ih =>
    simp [List.foldlM_cons, Scan.step, hexDigit?_of_mem first, hexDigit?_of_mem second,
      hexDigit?_of_mem third, hexDigit?_of_mem fourth, ih]

end Strings

/-! ### The scanner -/

/-- The scan has found the tokens, last first, the last of them perhaps without knowing that it is
complete. -/
inductive Scan.Settled : Scan → List Token → Prop
  | outside (tokens : List Token) : Settled ⟨tokens, .outside⟩ tokens
  | bare {tokens : List Token} {run : List Char} {token : Token}
      (complete : bareToken? run.reverse = some token) :
      Settled ⟨tokens, .bare run⟩ (token :: tokens)

/-- Wherever a token may start, the text is scanned to the tokens. -/
def Lexes (source : List Char) (tokens : List Token) : Prop :=
  ∀ before, ∃ scan, source.foldlM Scan.step ⟨before, .outside⟩ = some scan ∧
    scan.Settled (tokens.reverse ++ before)

section Scanner

variable {scan : Scan} {tokens later : List Token} {source rest : List Char} {c : Char}
  {token : Token}

theorem Scan.Settled.finish (settled : scan.Settled tokens) :
    scan.finish = some tokens.reverse := by
  cases settled with
  | outside => rfl
  | bare complete => simp [Scan.finish, complete]

/-- A character that does not go on with a word or number ends it. -/
theorem Scan.Settled.step (settled : scan.Settled tokens) (ends : isBare c = false) :
    scan.step c = Scan.outside tokens c := by
  cases settled with
  | outside => rfl
  | bare complete => simp [Scan.step, ends, complete]

theorem isBare_of_isSpace (space : isSpace c = true) : isBare c = false := by
  simp only [isSpace, Bool.or_eq_true, decide_eq_true_eq] at space
  rcases space with ((rfl | rfl) | rfl) | rfl <;> decide

theorem isSpace_of_mem_gap (gap : Gap source) (member : c ∈ source) : isSpace c = true := by
  have listed := gap c member
  simpa [isSpace, or_assoc] using listed

theorem outside_punctuation (punctuation : punctuation? c = some token) :
    isBare c = false ∧ Scan.outside tokens c = some ⟨token :: tokens, .outside⟩ := by
  unfold punctuation? at punctuation
  split at punctuation <;> cases punctuation <;> exact ⟨by decide, rfl⟩

theorem foldlM_gap (gap : Gap source) (before : List Token) :
    source.foldlM Scan.step ⟨before, .outside⟩ = some ⟨before, .outside⟩ := by
  induction source with
  | nil => rfl
  | cons c rest ih =>
    have space := isSpace_of_mem_gap gap List.mem_cons_self
    have next : Scan.step ⟨before, .outside⟩ c = some ⟨before, .outside⟩ := if_pos space
    rw [List.foldlM_cons, next]
    exact ih (List.forall_mem_cons.mp gap).2

theorem Scan.Settled.gap (settled : scan.Settled tokens) (gap : Gap source) :
    ∃ after, source.foldlM Scan.step scan = some after ∧ after.Settled tokens := by
  cases source with
  | nil => exact ⟨scan, rfl, settled⟩
  | cons c rest =>
    have space := isSpace_of_mem_gap gap List.mem_cons_self
    have next : scan.step c = some ⟨tokens, .outside⟩ := by
      rw [settled.step (isBare_of_isSpace space), Scan.outside, if_pos space]
    refine ⟨⟨tokens, .outside⟩, ?_, .outside tokens⟩
    rw [List.foldlM_cons, next]
    exact foldlM_gap (List.forall_mem_cons.mp gap).2 tokens

theorem Lexes.gap (gap : Gap source) : Lexes source [] :=
  fun before => ⟨_, foldlM_gap gap before, .outside before⟩

theorem Lexes.padded {front back : List Char} (inside : Lexes source tokens) (gap : Gap front)
    (gap' : Gap back) : Lexes (front ++ source ++ back) tokens := by
  intro before
  obtain ⟨scan, scanned, settled⟩ := inside before
  obtain ⟨after, scanned', settled'⟩ := settled.gap gap'
  refine ⟨after, ?_, settled'⟩
  simp [List.foldlM_append, foldlM_gap gap, scanned, scanned']

/-- A token of one character ends what is in front of it. -/
theorem Lexes.punctuated (front : Lexes source tokens) (punctuation : punctuation? c = some token)
    (back : Lexes rest later) : Lexes (source ++ c :: rest) (tokens ++ token :: later) := by
  intro before
  obtain ⟨scan, scanned, settled⟩ := front before
  obtain ⟨after, scanned', settled'⟩ := back (token :: (tokens.reverse ++ before))
  have next : scan.step c = some ⟨token :: (tokens.reverse ++ before), .outside⟩ := by
    obtain ⟨ends, found⟩ := outside_punctuation punctuation
    rw [settled.step ends, found]
  refine ⟨after, ?_, by simpa using settled'⟩
  simp [List.foldlM_append, List.foldlM_cons, scanned, next, scanned']

theorem Lexes.bracketed {first last : Char} {opening closing : Token}
    (inside : Lexes source tokens) (opens : punctuation? first = some opening)
    (closes : punctuation? last = some closing) :
    Lexes (first :: (source ++ [last])) (opening :: (tokens ++ [closing])) := by
  have nothing : Lexes [] [] := .gap (by simp [Gap])
  exact nothing.punctuated opens (inside.punctuated closes nothing)

theorem foldlM_bare (bare : ∀ c ∈ source, isBare c = true) (before : List Token)
    (run : List Char) :
    source.foldlM Scan.step ⟨before, .bare run⟩ = some ⟨before, .bare (source.reverse ++ run)⟩ := by
  induction source generalizing run with
  | nil => rfl
  | cons c rest ih =>
    obtain ⟨first, later⟩ := List.forall_mem_cons.mp bare
    simp [List.foldlM_cons, Scan.step, first, ih later]

/-- Words and numbers. -/
theorem Lexes.bare (filled : source ≠ []) (bare : ∀ c ∈ source, isBare c = true)
    (known : bareToken? source = some token) : Lexes source [token] := by
  intro before
  cases source with
  | nil => exact absurd rfl filled
  | cons c rest =>
    obtain ⟨first, later⟩ := List.forall_mem_cons.mp bare
    have noSpace : isSpace c = false := by
      refine Bool.eq_false_iff.mpr fun space => ?_
      rw [isBare_of_isSpace space] at first
      cases first
    have unquoted : c ≠ '"' := by
      rintro rfl
      cases first
    have next : Scan.step ⟨before, .outside⟩ c = some ⟨before, .bare [c]⟩ := by
      simp [Scan.step, Scan.outside, noSpace, unquoted, first]
    refine ⟨⟨before, .bare (rest.reverse ++ [c])⟩, ?_, .bare (by simpa using known)⟩
    rw [List.foldlM_cons, next]
    exact foldlM_bare later before [c]

theorem Lexes.quoted {text : Option String} (quoted : Quoted text source) :
    Lexes source [.scalar (.string text)] := by
  intro before
  obtain ⟨points, inside, rfl, spelled, read⟩ := quoted.exists_points
  refine ⟨⟨.scalar (.string text) :: before, .outside⟩, ?_, .outside _⟩
  have opened : Scan.step ⟨before, .outside⟩ '"' = some ⟨before, .string []⟩ := rfl
  have closed : Scan.step ⟨before, .string points.reverse⟩ '"' =
      some ⟨.scalar (.string text) :: before, .outside⟩ := by simp [Scan.step, read]
  simp [List.foldlM_cons, List.foldlM_append, opened, spelled.foldlM_step, closed]

end Scanner

/-! ### Tokens of a value -/

mutual

def tokens : Json → List Token
  | .array items => .openArray :: (itemTokens items ++ [.closeArray])
  | .object fields => .openObject :: (fieldTokens fields ++ [.closeObject])
  | .null => [.scalar .null]
  | .bool flag => [.scalar (.bool flag)]
  | .number literal => [.scalar (.number literal)]
  | .string text => [.scalar (.string text)]

def itemTokens : List Json → List Token
  | [] => []
  | [value] => value.tokens
  | value :: next :: values => value.tokens ++ .comma :: itemTokens (next :: values)

def fieldTokens : List (Option String × Json) → List Token
  | [] => []
  | [(name, value)] => .scalar (.string name) :: .colon :: value.tokens
  | (name, value) :: next :: fields =>
      .scalar (.string name) :: .colon :: (value.tokens ++ .comma :: fieldTokens (next :: fields))

end

mutual

/-- Every text of a value is scanned to its tokens. -/
theorem Spells.lexes {value : Json} {source : List Char} :
    Spells value source → Lexes source value.tokens
  | .null => .bare (by decide) (by simp [isBare]) rfl
  | .true => .bare (by decide) (by simp [isBare]) rfl
  | .false => .bare (by decide) (by simp [isBare]) rfl
  | .number wellFormed => .bare wellFormed.ne_nil wellFormed.isBare wellFormed.bareToken?
  | .string quoted => .quoted quoted
  | .array listed => listed.lexes.bracketed rfl rfl
  | .object listed => listed.lexes.bracketed rfl rfl
  | .padded front inside back => inside.lexes.padded front back

theorem SpellsItems.lexes {items : List Json} {source : List Char} :
    SpellsItems items source → Lexes source (itemTokens items)
  | .none empty => .gap empty
  | .last item => item.lexes
  | .more item rest => item.lexes.punctuated rfl rest.lexes

theorem SpellsFields.lexes {fields : List (Option String × Json)} {source : List Char} :
    SpellsFields fields source → Lexes source (fieldTokens fields)
  | .none empty => .gap empty
  | .last named valued => named.lexes.punctuated rfl valued.lexes
  | .more named valued rest =>
      named.lexes.punctuated rfl (valued.lexes.punctuated rfl rest.lexes)

end

/-! ### Values of tokens -/

/-- The first item of an array is read like the other ones. -/
theorem foldlM_atFirstItem (item : Json) (items : List Json) (later : List Token)
    (frames : List Frame) :
    (itemTokens (item :: items) ++ later).foldlM Reading.step (.atFirstItem frames) =
      (itemTokens (item :: items) ++ later).foldlM Reading.step
        (.atValue (.array [] :: frames)) := by
  cases items <;> cases item <;> rfl

/-- The first name of an object is read like the other ones. -/
theorem foldlM_atFirstName (field : Option String × Json) (fields : List (Option String × Json))
    (later : List Token) (frames : List Frame) :
    (fieldTokens (field :: fields) ++ later).foldlM Reading.step (.atFirstName frames) =
      (fieldTokens (field :: fields) ++ later).foldlM Reading.step (.atName [] frames) := by
  cases fields <;> rfl

mutual

/-- The tokens of a value are read as that value, whatever is still open around it. -/
theorem foldlM_tokens (value : Json) (frames : List Frame) :
    value.tokens.foldlM Reading.step (.atValue frames) = some (.behind value frames) := by
  cases value with
  | null | bool | number | string => rfl
  | array items =>
    have opened : Reading.step (.atValue frames) .openArray = some (.atFirstItem frames) := rfl
    rw [tokens, List.foldlM_cons, opened]
    cases items with
    | nil => rfl
    | cons item items =>
      exact (foldlM_atFirstItem item items _ frames).trans (foldlM_itemTokens item items [] frames)
  | object fields =>
    have opened : Reading.step (.atValue frames) .openObject = some (.atFirstName frames) := rfl
    rw [tokens, List.foldlM_cons, opened]
    cases fields with
    | nil => rfl
    | cons field fields =>
      obtain ⟨name, value⟩ := field
      exact (foldlM_atFirstName (name, value) fields _ frames).trans
        (foldlM_fieldTokens name value fields [] frames)
termination_by sizeOf value

theorem foldlM_itemTokens (item : Json) (items done : List Json) (frames : List Frame) :
    (itemTokens (item :: items) ++ [Token.closeArray]).foldlM Reading.step
        (.atValue (.array done :: frames)) =
      some (.behind (.array (done.reverse ++ item :: items)) frames) := by
  cases items with
  | nil => simp [itemTokens, List.foldlM_append, foldlM_tokens item, Reading.step]
  | cons next items =>
    have rest := foldlM_itemTokens next items (item :: done) frames
    simp_all [itemTokens, List.foldlM_append, foldlM_tokens item, Reading.step]
termination_by sizeOf item + sizeOf items

theorem foldlM_fieldTokens (name : Option String) (value : Json)
    (fields done : List (Option String × Json)) (frames : List Frame) :
    (fieldTokens ((name, value) :: fields) ++ [Token.closeObject]).foldlM Reading.step
        (.atName done frames) =
      some (.behind (.object (done.reverse ++ (name, value) :: fields)) frames) := by
  cases fields with
  | nil =>
    simp [fieldTokens, List.foldlM_append, List.foldlM_cons, foldlM_tokens value, Reading.step,
      Reading.stepName]
  | cons next fields =>
    obtain ⟨name', value'⟩ := next
    have rest := foldlM_fieldTokens name' value' fields ((name, value) :: done) frames
    simp_all [fieldTokens, List.foldlM_append, List.foldlM_cons, foldlM_tokens value, Reading.step,
      Reading.stepName]
termination_by sizeOf value + sizeOf fields

end

theorem ofTokens?_tokens (value : Json) : ofTokens? value.tokens = some value := by
  rw [ofTokens?, foldlM_tokens]
  rfl

/-- A text that the grammar spells a value with is read as that value. -/
theorem read?_of_spells {value : Json} {text : String} (spelled : Spells value text.toList) :
    read? text = some value := by
  obtain ⟨scan, scanned, settled⟩ := spelled.lexes []
  have found : tokens? text.toList = some value.tokens := by
    have finished := settled.finish
    rw [List.append_nil, List.reverse_reverse] at finished
    rw [tokens?, scanned]
    exact finished
  rw [read?, found]
  exact ofTokens?_tokens value

end SqlBuilder.Json
