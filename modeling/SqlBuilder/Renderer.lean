import SqlBuilder.Rendering.Nested
import SqlBuilder.Settings.Basic
import SqlBuilder.Text.Truncate

/-!
# Renderers

A renderer turns statements into SQL text and reports each text it produces. A statement that cannot
be rendered is not reported.
-/
namespace SqlBuilder

inductive LogLevel where
  | debug | trace
  deriving DecidableEq, Repr

structure LogRecord where
  level : LogLevel
  /-- The kind of the statement; none for bare conditions. -/
  kind : Option Kind
  sql : String
  deriving DecidableEq, Repr

/-- The word for the kind of the statement in the log. -/
def LogRecord.kindLabel (r : LogRecord) : String := (r.kind.map Kind.keyword).getD "CONDITION"

structure Outcome where
  result : Except Error String
  log : List LogRecord

structure Renderer where
  pagination : Pagination
  settings : Settings

namespace Renderer

def ofSettings (settings : Settings) : Renderer := ⟨settings.dialect.pagination, settings⟩

def ofDialect (dialect : Dialect) : Renderer := ofSettings { dialect := dialect }

instance : Inhabited Renderer := ⟨ofSettings {}⟩

/-- Takes another strategy than that of the dialect. -/
def withPagination (r : Renderer) (pagination : Pagination) : Renderer :=
  { r with pagination := pagination }

/-- What is logged of a rendered text. -/
def logRecord (r : Renderer) (kind : Option Kind) (sql : String) : LogRecord where
  level := if r.settings.logStatements then .debug else .trace
  kind := kind
  sql := match r.settings.maxLoggedBytes with
    | none => sql
    | some limit => Text.truncate limit.toNat sql

def render (r : Renderer) (s : Statement) : Outcome :=
  match s.render r.pagination with
  | .ok sql => ⟨.ok sql, [r.logRecord s.kind sql]⟩
  | .error e => ⟨.error e, []⟩

end Renderer

/-- The text of a statement under default settings. -/
def Statement.toSql (s : Statement) : Except Error String :=
  ((default : Renderer).render s).result

end SqlBuilder
