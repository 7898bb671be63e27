import SqlBuilder.Pagination
import SqlBuilder.Statement.Clause

/-!
# Layout of a statement

How the texts of the nested parts of a statement are put together, part by part in clause order.
Clauses are set apart by one space, lists by commas, and an empty clause leaves no trace. Where a
part has failed the first failure in clause order is the failure of the statement.
-/
namespace SqlBuilder

/-- The outcome of rendering each nested part of one statement. -/
structure Parts where
  ctes : Except Error (List String)
  selectList : Except Error (List String)
  source : Except Error (Option String)
  joins : Except Error (List String)
  conditions : Except Error (List String)
  groupConditions : Except Error (List String)
  /-- The texts of the values of a payload, in their order. -/
  values : Except Error (List String)
  /-- The text of a nested SELECT whose rows are inserted. -/
  rows : Except Error String
  unionMembers : Except Error (List String)

namespace Layout

/-- Joins the texts that are not empty. -/
def spaced (texts : List String) : String := " ".intercalate (texts.filter (· ≠ ""))

def commaList (texts : List String) : String := ",".intercalate texts

def parenthesized (text : String) : String := "(" ++ text ++ ")"

/-- The text and the space after it. -/
def leading : Option String → String
  | none => ""
  | some text => text ++ " "

/-- A text that starts with a keyword, or nothing for an empty list. -/
def clause (keyword separator : String) : List String → String
  | [] => ""
  | texts => keyword ++ " " ++ separator.intercalate texts

def condition (connector : Option Connector) (modifier : Option Modifier) (body : String) :
    String :=
  leading (connector.map (·.keyword)) ++ leading (modifier.map (·.keyword)) ++ body

def join (form : JoinForm) (target : String) : Option String → String
  | none => form.keyword ++ " " ++ target
  | some condition => form.keyword ++ " " ++ target ++ " ON " ++ condition

/-- A member with an ordering or a page of its own keeps them to itself by parentheses. -/
def unionMember (keepDuplicates ownArrangement : Bool) (text : String) : String :=
  (if keepDuplicates then "UNION ALL " else "UNION ") ++
    (if ownArrangement then parenthesized text else text)

def cte (name : String) (columns : Option (List String)) (body : String) : String :=
  name ++ " " ++ leading (columns.map fun names => parenthesized (commaList names)) ++ "AS " ++
    parenthesized body

def orderTerm (term : String × Direction) : String := term.1 ++ " " ++ term.2.keyword

/-- The columns of an INSERT and as many values. -/
def insertedValues (columns values : List String) : String :=
  parenthesized (commaList columns) ++ " VALUES " ++ parenthesized (commaList values)

/-- A derived statement stands in parentheses, followed by its name. -/
def derived (aliasName : Option String) (text : String) : String :=
  match aliasName with
  | none => parenthesized text
  | some name => parenthesized text ++ " AS " ++ name

end Layout

namespace Statement

/-- Whether the statement orders or pages its rows. -/
def arrangesRows (s : Statement) : Bool :=
  !s.orderTerms.isEmpty || s.rowLimit.isSome || s.rowOffset > 0

def withText (s : Statement) (ctes : List String) : String :=
  Layout.clause (if s.recursive then "WITH RECURSIVE" else "WITH") ", " ctes

def selectListText (s : Statement) (items : List String) : String :=
  let list := Layout.commaList (items.filter (· ≠ ""))
  (if s.distinct then "SELECT DISTINCT " else "SELECT ") ++ (if list = "" then "*" else list)

def fromText (s : Statement) : Option String → String
  | none => ""
  | some source =>
      "FROM " ++ source ++ (match s.sourceAlias with | none => "" | some name => " " ++ name)

/-- HAVING is part of GROUP BY: without columns to group by, its conditions are not looked at. -/
def groupText (s : Statement) (conditions : Except Error (List String)) :
    Except Error (List String) :=
  match s.groupColumns with
  | [] => .ok []
  | columns => do
      return ["GROUP BY " ++ Layout.commaList columns, Layout.clause "HAVING" " " (← conditions)]

def selectText (s : Statement) (pagination : Pagination) (parts : Parts) :
    Except Error String := do
  let ctes ← parts.ctes
  let items ← parts.selectList
  let source ← parts.source
  let joins ← parts.joins
  let conditions ← parts.conditions
  let groups ← s.groupText parts.groupConditions
  let members ← parts.unionMembers
  return Layout.spaced <|
    [s.withText ctes, s.selectListText items, s.fromText source] ++ joins ++
      [Layout.clause "WHERE" " " conditions] ++ groups ++ members ++
      [Layout.clause "ORDER BY" "," (s.orderTerms.map Layout.orderTerm),
        (pagination.clause? s.rowLimit s.rowOffset).getD ""]

/-- The target table of a statement that writes rows. -/
def tableText (kind : Kind) (parts : Parts) : Except Error String := do
  match ← parts.source with
  | some table => return table
  | none => throw (.missingTable kind)

/-- Values go to as many columns. -/
def insertedValuesText (columns : List String) (count : Nat)
    (values : Except Error (List String)) : Except Error String := do
  if columns.length ≠ count then throw (.countMismatch columns.length count)
  return Layout.insertedValues columns (← values)

def insertedText (s : Statement) (parts : Parts) : Except Error String :=
  match s.payload, s.columnList with
  | none, none => .ok "DEFAULT VALUES"
  | none, some _ => .error .columnsWithoutValues
  | some (.rows _), none => parts.rows
  | some (.rows _), some columns => do
      return Layout.parenthesized (Layout.commaList columns) ++ " " ++ (← parts.rows)
  | some (.named pairs), none =>
      insertedValuesText (pairs.map (·.1)) pairs.length parts.values
  | some (.named pairs), some columns => insertedValuesText columns pairs.length parts.values
  | some (.positional _), none => .error .valuesWithoutColumns
  | some (.positional values), some columns =>
      insertedValuesText columns values.length parts.values

def insertText (s : Statement) (parts : Parts) : Except Error String := do
  let ctes ← parts.ctes
  let table ← tableText .insert parts
  let inserted ← s.insertedText parts
  return Layout.spaced [s.withText ctes, "INSERT INTO " ++ table, inserted]

/-- The columns that an UPDATE sets. -/
def updatedColumns (s : Statement) : Except Error (List String) :=
  match s.payload with
  | none | some (.named []) => .error .nothingToSet
  | some (.named pairs) => .ok (pairs.map (·.1))
  | some (.positional _) | some (.rows _) => .error .setRequiresPairs

def updateText (s : Statement) (parts : Parts) : Except Error String := do
  let columns ← s.updatedColumns
  let ctes ← parts.ctes
  let table ← tableText .update parts
  let values ← parts.values
  let conditions ← parts.conditions
  return Layout.spaced [s.withText ctes, "UPDATE " ++ table,
    "SET " ++ Layout.commaList (List.zipWith (fun column value => column ++ "=" ++ value) columns
      values),
    Layout.clause "WHERE" " " conditions]

def deleteText (s : Statement) (parts : Parts) : Except Error String := do
  let ctes ← parts.ctes
  let table ← tableText .delete parts
  let conditions ← parts.conditions
  return Layout.spaced [s.withText ctes, "DELETE FROM " ++ table,
    Layout.clause "WHERE" " " conditions]

/-- Conditions alone make a text; any other clause needs a verb. -/
def verblessText (s : Statement) (parts : Parts) : Except Error String :=
  match s.strayClause? with
  | some clause => .error (.verbRequired clause)
  | none => return " ".intercalate (← parts.conditions)

def bareText (s : Statement) (pagination : Pagination) (parts : Parts) : Except Error String :=
  match s.kind with
  | some .select => s.selectText pagination parts
  | some .insert => s.insertText parts
  | some .update => s.updateText parts
  | some .delete => s.deleteText parts
  | none => s.verblessText parts

/-- The text of the whole statement. An error met while building comes before all others. -/
def text (s : Statement) (pagination : Pagination) (parts : Parts) : Except Error String :=
  match s.firstError with
  | some e => .error e
  | none => do
      let bare ← s.bareText pagination parts
      return if s.derived then Layout.derived s.aliasName bare else bare

end Statement
end SqlBuilder
