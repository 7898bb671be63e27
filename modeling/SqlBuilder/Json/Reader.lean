import SqlBuilder.Json.Token

/-!
# Reading JSON

The grammar of strict JSON as a machine over tokens. The arrays and objects that are still open are
kept on a stack, so no depth of nesting is refused.
-/
namespace SqlBuilder.Json

/-- An array or object that is still open, with what it holds so far, last first. -/
inductive Frame where
  | array (items : List Json)
  | object (fields : List (Option String × Json)) (name : Option String)

inductive Reading where
  /-- A value comes next. -/
  | atValue (frames : List Frame)
  /-- An array was opened. -/
  | atFirstItem (frames : List Frame)
  /-- An object was opened. -/
  | atFirstName (frames : List Frame)
  /-- The name of another field comes next. -/
  | atName (fields : List (Option String × Json)) (frames : List Frame)
  /-- A colon comes next. -/
  | atColon (fields : List (Option String × Json)) (name : Option String) (frames : List Frame)
  /-- A value is complete. -/
  | behind (value : Json) (frames : List Frame)

namespace Reading

def stepValue (frames : List Frame) : Token → Option Reading
  | .scalar value => some (.behind value frames)
  | .openArray => some (.atFirstItem frames)
  | .openObject => some (.atFirstName frames)
  | _ => none

def stepName (fields : List (Option String × Json)) (frames : List Frame) :
    Token → Option Reading
  | .scalar (.string name) => some (.atColon fields name frames)
  | _ => none

def step : Reading → Token → Option Reading
  | .atValue frames, token => stepValue frames token
  | .atFirstItem frames, .closeArray => some (.behind (.array []) frames)
  | .atFirstItem frames, token => stepValue (.array [] :: frames) token
  | .atFirstName frames, .closeObject => some (.behind (.object []) frames)
  | .atFirstName frames, token => stepName [] frames token
  | .atName fields frames, token => stepName fields frames token
  | .atColon fields name frames, .colon => some (.atValue (.object fields name :: frames))
  | .behind value (.array items :: frames), .comma =>
      some (.atValue (.array (value :: items) :: frames))
  | .behind value (.array items :: frames), .closeArray =>
      some (.behind (.array (value :: items).reverse) frames)
  | .behind value (.object fields name :: frames), .comma =>
      some (.atName ((name, value) :: fields) frames)
  | .behind value (.object fields name :: frames), .closeObject =>
      some (.behind (.object ((name, value) :: fields).reverse) frames)
  | _, _ => none

/-- The value read, when nothing is left open. -/
def finish : Reading → Option Json
  | .behind value [] => some value
  | _ => none

end Reading

def ofTokens? (tokens : List Token) : Option Json :=
  (tokens.foldlM Reading.step (.atValue [])).bind Reading.finish

/-- The value of a text that is one JSON value and nothing else. -/
def read? (text : String) : Option Json := (tokens? text.toList).bind ofTokens?

end SqlBuilder.Json
