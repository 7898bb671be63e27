/-!
# JSON values

Values as they stand in a text. Numbers keep their spelling and objects keep all their fields, also
repeated ones, so that a reader of values decides what it accepts. A string with an unpaired
surrogate escape is well formed but names no text.
-/
namespace SqlBuilder

inductive Json where
  | null
  | bool (value : Bool)
  | number (literal : List Char)
  | string (text : Option String)
  | array (items : List Json)
  | object (fields : List (Option String × Json))
  deriving Inhabited, Repr

/-- The number that a literal without sign, fraction and exponent denotes. -/
def Json.natural? : Json → Option Nat
  | .number literal =>
      if literal.all Char.isDigit then some (Nat.ofDigitChars 10 literal 0) else none
  | _ => none

end SqlBuilder
