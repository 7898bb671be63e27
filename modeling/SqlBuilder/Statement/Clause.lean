import SqlBuilder.Statement.Basic

/-!
# Clauses

Which clauses a statement holds and which kinds of statement take them. A clause is named in two
places: when it is added to a statement that has a verb, and when a verb is given to a statement
that holds clauses already. `Clause.checked` is the list that the second place goes through.
-/
namespace SqlBuilder

inductive Clause where
  | selectList | distinct | source | join | grouping | groupFilter | ordering | paging | union
  | filter | payload | columnList
  /-- Rows of a nested SELECT; once stored they count as a payload. -/
  | insertedRows
  deriving DecidableEq, Repr

namespace Clause

def name : Clause → String
  | selectList => "SELECT list"
  | distinct => "DISTINCT"
  | source => "FROM"
  | join => "JOIN"
  | grouping => "GROUP BY"
  | groupFilter => "HAVING"
  | ordering => "ORDER BY"
  | paging => "LIMIT/OFFSET"
  | union => "UNION"
  | filter => "WHERE"
  | payload => "VALUES"
  | columnList => "column list"
  | insertedRows => "INSERT ... SELECT"

def accepts : Clause → Kind → Bool
  | filter, kind => kind ≠ .insert
  | payload, kind => kind = .insert ∨ kind = .update
  | columnList, kind => kind = .insert
  | insertedRows, kind => kind = .insert
  | _, kind => kind = .select

/-- The clauses that a statement is searched for, in this order. -/
def checked : List Clause :=
  [selectList, distinct, source, join, grouping, groupFilter, ordering, paging, union, filter,
    payload, columnList]

/-- Whether the statement holds the clause. -/
def populated (s : Statement) : Clause → Bool
  | selectList => !s.selectList.isEmpty
  | distinct => s.distinct
  | source => s.source.isSome
  | join => !s.joins.isEmpty
  | grouping => !s.groupColumns.isEmpty
  | groupFilter => !s.groupConditions.isEmpty
  | ordering => !s.orderTerms.isEmpty
  | paging => s.rowLimit.isSome || s.rowOffset > 0
  | union => !s.unionMembers.isEmpty
  | filter => !s.conditions.isEmpty
  | payload => s.payload.any (!·.isEmpty)
  | columnList => s.columnList.isSome
  | insertedRows => s.payload matches some (.rows _)

end Clause

namespace Statement

/-- A clause that only a verb can give a meaning, on a statement without one. Bare conditions need
no verb. -/
def strayClause? (s : Statement) : Option String :=
  if s.kind.isSome then none
  else if !s.ctes.isEmpty then some "WITH"
  else (Clause.checked.find? fun clause => clause.populated s && clause ≠ .filter).map (·.name)

/-- A statement with neither verb nor clause. -/
def isEmpty (s : Statement) : Bool :=
  s.kind.isNone && s.conditions.isEmpty && s.strayClause?.isNone

end Statement

namespace Operand

/-- Whether the operand renders to nothing. -/
def isEmpty : Operand → Bool
  | .sql text => text.isEmpty
  | .nested statement => statement.isEmpty

/-- Whether the operand is a nested statement that was never given a verb. -/
def lacksVerb : Operand → Bool
  | .sql _ => false
  | .nested statement => statement.kind.isNone

end Operand
end SqlBuilder
