import SqlBuilder.Pagination

/-!
# Settings

What a renderer is configured with: the dialect of the pagination clause, and whether and how far
rendered statements are logged.
-/
namespace SqlBuilder

inductive Dialect where
  /-- LIMIT and OFFSET. -/
  | standard
  /-- OFFSET with FETCH. -/
  | sqlServer
  deriving DecidableEq, Repr, Inhabited

namespace Dialect

def name : Dialect → String
  | standard => "standard"
  | sqlServer => "sql_server"

/-- The dialect that goes by the name; most systems share the standard one. -/
def ofName? (name : String) : Option Dialect :=
  if name ∈ ["standard", "postgres", "sqlite", "mysql"] then some standard
  else if name ∈ ["sql_server", "mssql"] then some sqlServer
  else none

def pagination : Dialect → Pagination
  | standard => .limitOffset
  | sqlServer => .offsetFetch

/-- No dialect writes a clause for a statement without a page. -/
theorem pagination_unpaged (dialect : Dialect) :
    (dialect.pagination.clause? none 0).getD "" = "" := by
  cases dialect <;> rfl

end Dialect

structure Settings where
  dialect : Dialect := .standard
  /-- Whether rendered statements are logged for ordinary debugging or only for tracing. -/
  logStatements : Bool := true
  /-- How many bytes of a statement are logged; all of them if absent. -/
  maxLoggedBytes : Option UInt64 := some 200
  deriving DecidableEq, Repr, Inhabited

namespace Settings

def withDialect (s : Settings) (dialect : Dialect) : Settings := { s with dialect := dialect }

def enableLogging (s : Settings) : Settings := { s with logStatements := true }

def disableLogging (s : Settings) : Settings := { s with logStatements := false }

def withMaxLoggedBytes (s : Settings) (limit : UInt64) : Settings :=
  { s with maxLoggedBytes := some limit }

def withoutTruncation (s : Settings) : Settings := { s with maxLoggedBytes := none }

end Settings
end SqlBuilder
