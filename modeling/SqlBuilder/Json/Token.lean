import SqlBuilder.Json.Basic

/-!
# JSON tokens

The lexical rules of strict JSON. The text is read one character at a time; words and numbers are
runs of the same character class and are told apart when the run ends.
-/
namespace SqlBuilder.Json

inductive Token where
  | openArray | closeArray | openObject | closeObject | comma | colon
  /-- A token that is a value by itself. -/
  | scalar (value : Json)

/-- The separators of JSON, which are fewer than the blanks of Unicode. -/
def isSpace (c : Char) : Bool := c = ' ' || c = '\t' || c = '\n' || c = '\r'

def punctuation? : Char → Option Token
  | '[' => some .openArray
  | ']' => some .closeArray
  | '{' => some .openObject
  | '}' => some .closeObject
  | ',' => some .comma
  | ':' => some .colon
  | _ => none

/-- Characters of words and numbers. -/
def isBare (c : Char) : Bool := c.isAlphanum || c = '-' || c = '+' || c = '.'

/-! ## Numbers -/

def isExponent : List Char → Bool
  | [] => true
  | mark :: rest =>
      let digits := match rest with
        | '+' :: digits => digits
        | '-' :: digits => digits
        | digits => digits
      (mark = 'e' || mark = 'E') && !digits.isEmpty && digits.all Char.isDigit

def isFractionAndExponent : List Char → Bool
  | '.' :: rest =>
      !(rest.takeWhile Char.isDigit).isEmpty && isExponent (rest.dropWhile Char.isDigit)
  | rest => isExponent rest

/-- A number without its sign. A whole part of several digits does not start with zero. -/
def isUnsigned (literal : List Char) : Bool :=
  let rest := literal.dropWhile Char.isDigit
  match literal.takeWhile Char.isDigit with
  | [] => false
  | ['0'] => isFractionAndExponent rest
  | '0' :: _ => false
  | _ => isFractionAndExponent rest

def isNumber : List Char → Bool
  | '-' :: literal => isUnsigned literal
  | literal => isUnsigned literal

def bareToken? (run : List Char) : Option Token :=
  if run = "null".toList then some (.scalar .null)
  else if run = "true".toList then some (.scalar (.bool true))
  else if run = "false".toList then some (.scalar (.bool false))
  else if isNumber run then some (.scalar (.number run))
  else none

/-! ## Strings -/

/-- The text spelled by code points, in which a surrogate stands for half a character. -/
def textOf : List Nat → Option (List Char)
  | [] => some []
  | high :: rest =>
      if 0xD800 ≤ high ∧ high < 0xDC00 then
        match rest with
        | low :: rest =>
            if 0xDC00 ≤ low ∧ low < 0xE000 then
              (textOf rest).map
                (Char.ofNat (0x10000 + (high - 0xD800) * 0x400 + (low - 0xDC00)) :: ·)
            else none
        | [] => none
      else if 0xDC00 ≤ high ∧ high < 0xE000 then none
      else (textOf rest).map (Char.ofNat high :: ·)

def escaped? : Char → Option Nat
  | '"' => some '"'.toNat
  | '\\' => some '\\'.toNat
  | '/' => some '/'.toNat
  | 'b' => some 0x08
  | 'f' => some 0x0C
  | 'n' => some 0x0A
  | 'r' => some 0x0D
  | 't' => some 0x09
  | _ => none

def hexDigit? (c : Char) : Option Nat :=
  if c.isDigit then some (c.toNat - '0'.toNat)
  else if 'a' ≤ c ∧ c ≤ 'f' then some (c.toNat - 'a'.toNat + 10)
  else if 'A' ≤ c ∧ c ≤ 'F' then some (c.toNat - 'A'.toNat + 10)
  else none

/-! ## The scanner -/

/-- Where in a token the scanner stands. Code points and characters are kept last first. -/
inductive Mode where
  | outside
  | bare (run : List Char)
  | string (points : List Nat)
  /-- Behind the backslash of an escape. -/
  | escape (points : List Nat)
  /-- In an escape by code, with the digits still to come. -/
  | code (points : List Nat) (value missing : Nat)

/-- The tokens found so far, last first, and the place reached. -/
structure Scan where
  tokens : List Token := []
  mode : Mode := .outside

namespace Scan

/-- A character that belongs to no token yet. -/
def outside (tokens : List Token) (c : Char) : Option Scan :=
  if isSpace c then some ⟨tokens, .outside⟩
  else if c = '"' then some ⟨tokens, .string []⟩
  else if isBare c then some ⟨tokens, .bare [c]⟩
  else (punctuation? c).map fun token => ⟨token :: tokens, .outside⟩

def step : Scan → Char → Option Scan
  | ⟨tokens, .outside⟩, c => outside tokens c
  | ⟨tokens, .bare run⟩, c =>
      if isBare c then some ⟨tokens, .bare (c :: run)⟩
      else (bareToken? run.reverse).bind fun token => outside (token :: tokens) c
  | ⟨tokens, .string points⟩, c =>
      if c = '"' then
        some ⟨.scalar (.string ((textOf points.reverse).map String.ofList)) :: tokens, .outside⟩
      else if c = '\\' then some ⟨tokens, .escape points⟩
      else if c.toNat < 0x20 then none
      else some ⟨tokens, .string (c.toNat :: points)⟩
  | ⟨tokens, .escape points⟩, c =>
      if c = 'u' then some ⟨tokens, .code points 0 3⟩
      else (escaped? c).map fun point => ⟨tokens, .string (point :: points)⟩
  | ⟨tokens, .code points value missing⟩, c =>
      (hexDigit? c).map fun digit =>
        match missing with
        | 0 => ⟨tokens, .string ((value * 16 + digit) :: points)⟩
        | missing + 1 => ⟨tokens, .code points (value * 16 + digit) missing⟩

/-- The tokens of a text that ends here. -/
def finish : Scan → Option (List Token)
  | ⟨tokens, .outside⟩ => some tokens.reverse
  | ⟨tokens, .bare run⟩ => (bareToken? run.reverse).map fun token => (token :: tokens).reverse
  | _ => none

end Scan

def tokens? (text : List Char) : Option (List Token) :=
  (text.foldlM Scan.step {}).bind Scan.finish

end SqlBuilder.Json
