import SqlBuilder.Error

/-!
# Statements

A statement under construction: the clauses given so far and the first misuse met on the way. An
operand is SQL text, which is never inspected, or a nested statement, so statements, operands and
clauses are one mutual family. Nothing here decides which clauses go together; the builder calls do.
-/
namespace SqlBuilder

mutual

structure Statement where
  kind : Option Kind := none
  /-- Whether the statement stands as a derived table or expression in the one around it. -/
  derived : Bool := false
  /-- The name of the statement where it is derived. -/
  aliasName : Option String := none
  distinct : Bool := false
  selectList : List Operand := []
  /-- The FROM source of a SELECT, the target table of the other kinds. -/
  source : Option Operand := none
  sourceAlias : Option String := none
  joins : List Join := []
  /-- The WHERE conditions. -/
  conditions : List Condition := []
  groupColumns : List String := []
  /-- The HAVING conditions. -/
  groupConditions : List Condition := []
  orderTerms : List (String × Direction) := []
  rowLimit : Option UInt64 := none
  rowOffset : UInt64 := 0
  columnList : Option (List String) := none
  payload : Option Payload := none
  unionMembers : List UnionMember := []
  ctes : List Cte := []
  recursive : Bool := false
  firstError : Option Error := none

/-- What a clause is applied to: a column, a table, a condition or a value. -/
inductive Operand where
  | sql (text : String)
  | nested (statement : Statement)

structure Join where
  form : JoinForm
  target : Operand
  condition : Option Operand

structure Condition where
  connector : Option Connector
  modifier : Option Modifier
  body : Operand

/-- The rows that an INSERT or UPDATE writes. -/
inductive Payload where
  /-- Values that follow the explicit column list. -/
  | positional (values : List Operand)
  /-- Values that carry their column, in the order the columns were first named. -/
  | named (pairs : List (String × Operand))
  /-- The rows of a nested SELECT. -/
  | rows (statement : Statement)

structure UnionMember where
  statement : Statement
  keepDuplicates : Bool

/-- A common table expression. -/
structure Cte where
  name : String
  columns : Option (List String)
  body : Statement

end

instance : Inhabited Statement := ⟨{}⟩
instance : Inhabited Operand := ⟨.sql ""⟩

def Operand.statement? : Operand → Option Statement
  | .sql _ => none
  | .nested statement => some statement

def Payload.isEmpty : Payload → Bool
  | .positional values => values.isEmpty
  | .named pairs => pairs.isEmpty
  | .rows _ => false

/-- The names of the registered common table expressions, oldest first. -/
def Statement.cteNames (s : Statement) : List String := s.ctes.map (·.name)

end SqlBuilder
