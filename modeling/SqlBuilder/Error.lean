import SqlBuilder.Keyword

/-!
# Errors

Why a statement cannot be built or rendered. `Error.message` holds the wording. An error is either
a misuse of the builder or a failed validation of the finished statement, never both.
-/
namespace SqlBuilder

inductive Error where
  /-- A verb was asked of a statement that already has another one. -/
  | kindConflict (current requested : Kind)
  /-- The clause has no place in statements of this kind. -/
  | unsupportedClause (clause : String) (kind : Kind)
  /-- A statement that writes rows was given a blank table name, or none. -/
  | missingTable (kind : Kind)
  /-- A nested statement was built without content. -/
  | emptySubquery (context : String)
  | duplicateCte (name : String)
  | mixedValues
  /-- The statement is incomplete or inconsistent as a whole. -/
  | validation (reason : String)
  deriving DecidableEq, Repr

namespace Error

def message : Error → String
  | kindConflict current requested =>
      "Cannot turn a " ++ current.keyword ++ " statement into a " ++ requested.keyword
        ++ " statement"
  | unsupportedClause clause kind =>
      clause ++ " is not supported on " ++ kind.keyword ++ " statements"
  | missingTable kind => kind.keyword ++ " requires a table name"
  | emptySubquery context => "Empty subquery in " ++ context
  | duplicateCte name => "Duplicate CTE name: " ++ name
  | mixedValues => "Cannot mix positional and named values"
  | validation reason => "Validation error: " ++ reason

def isValidation : Error → Bool
  | validation _ => true
  | _ => false

def isMisuse (e : Error) : Bool := !e.isValidation

def blankCteName : Error := validation "CTE name cannot be empty"

/-- A clause other than WHERE stands on a statement without a verb. -/
def verbRequired (clause : String) : Error :=
  validation (clause ++ " requires a SELECT, INSERT, UPDATE or DELETE verb")

def columnsWithoutValues : Error := validation "INSERT: column list without values"

def valuesWithoutColumns : Error :=
  validation "INSERT: positional values require a column list"

def countMismatch (columns values : Nat) : Error :=
  validation ("INSERT: " ++ columns.repr ++ " columns but " ++ values.repr ++ " values")

def nothingToSet : Error := validation "UPDATE: SET clause cannot be empty"

def setRequiresPairs : Error := validation "UPDATE: SET requires column=value pairs"

end Error
end SqlBuilder
