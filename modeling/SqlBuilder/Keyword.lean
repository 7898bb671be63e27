/-!
# Keywords

The closed vocabularies of a statement: its verb, sort directions, join forms and the words around
a condition. Each has one SQL spelling, given by `keyword`.
-/
namespace SqlBuilder

/-- The verb of a statement. -/
inductive Kind where
  | select | insert | update | delete
  deriving DecidableEq, Repr

def Kind.keyword : Kind → String
  | .select => "SELECT"
  | .insert => "INSERT"
  | .update => "UPDATE"
  | .delete => "DELETE"

/-- Rows are sorted upwards unless the caller says otherwise. -/
inductive Direction where
  | ascending | descending
  deriving DecidableEq, Repr, Inhabited

def Direction.keyword : Direction → String
  | .ascending => "ASC"
  | .descending => "DESC"

inductive JoinForm where
  | inner | left | right | full | cross
  deriving DecidableEq, Repr

def JoinForm.keyword : JoinForm → String
  | .inner => "INNER JOIN"
  | .left => "LEFT JOIN"
  | .right => "RIGHT JOIN"
  | .full => "FULL OUTER JOIN"
  | .cross => "CROSS JOIN"

/-- The word between a condition and the one before it. -/
inductive Connector where
  | and | or
  deriving DecidableEq, Repr

def Connector.keyword : Connector → String
  | .and => "AND"
  | .or => "OR"

/-- The word in front of the body of a condition. -/
inductive Modifier where
  | not | exists | notExists
  deriving DecidableEq, Repr

def Modifier.keyword : Modifier → String
  | .not => "NOT"
  | .exists => "EXISTS"
  | .notExists => "NOT EXISTS"

end SqlBuilder
