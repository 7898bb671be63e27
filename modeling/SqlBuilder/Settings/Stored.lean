import SqlBuilder.Settings.Basic
import SqlBuilder.Json.Reader

/-!
# Stored settings

Settings as JSON text. They are written as one object with every field. Reading also takes an
object in which fields are missing or unknown, and a bare list of the leading fields; what is
missing has its default.
-/
namespace SqlBuilder

def Dialect.ofJson? : Json → Option Dialect
  | .string (some name) => ofName? name
  | .object [(some name, .null)] => ofName? name
  | _ => none

namespace Settings

def toJson (s : Settings) : String :=
  "\x7b\"dialect\":\"" ++ s.dialect.name ++
    "\",\"log_sql\":" ++ (if s.logStatements then "true" else "false") ++
    ",\"max_logged_sql_length\":" ++
    (match s.maxLoggedBytes with | none => "null" | some count => decimal count) ++ "\x7d"

def flagOfJson? : Json → Option Bool
  | .bool value => some value
  | _ => none

/-- Null lifts the limit; a number must fit in a word. -/
def limitOfJson? : Json → Option (Option UInt64)
  | .null => some none
  | value => do
      let count ← value.natural?
      if count < UInt64.size then some (some (UInt64.ofNat count)) else none

/-- Reads a value where there is one. -/
def orDefault {α : Type} (default : α) (read? : Json → Option α) : Option Json → Option α
  | none => some default
  | some value => read? value

/-- Builds settings from what is known of each field. -/
def ofFields? (dialect flag limit : Option Json) : Option Settings := do
  let defaults : Settings := {}
  return {
    dialect := ← orDefault defaults.dialect Dialect.ofJson? dialect
    logStatements := ← orDefault defaults.logStatements flagOfJson? flag
    maxLoggedBytes := ← orDefault defaults.maxLoggedBytes limitOfJson? limit }

/-- The value of a field that occurs at most once. -/
def field? (fields : List (Option String × Json)) (name : String) : Option (Option Json) :=
  match fields.filter (·.1 = some name) with
  | [] => some none
  | [(_, value)] => some (some value)
  | _ => none

/-- The settings that a JSON value describes. The names of all fields must be texts, also of those
that are skipped. -/
def ofJson? : Json → Option Settings
  | .object fields =>
      if fields.all (·.1.isSome) then do
        ofFields? (← field? fields "dialect") (← field? fields "log_sql")
          (← field? fields "max_logged_sql_length")
      else none
  | .array items =>
      if items.length ≤ 3 then ofFields? items[0]? items[1]? items[2]? else none
  | _ => none

def ofText? (text : String) : Option Settings := (Json.read? text).bind ofJson?

end Settings
end SqlBuilder
