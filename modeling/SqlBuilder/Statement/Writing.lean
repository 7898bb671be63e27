import SqlBuilder.Statement.Refusal
import SqlBuilder.Text.Blank

/-!
# Tables and values

The calls that say what INSERT, UPDATE and DELETE write, and where. A payload is positional, named
or a nested SELECT; once it is one of them it stays so, except that an empty positional payload
gives way to a nested SELECT.
-/
namespace SqlBuilder

/-- Sets the value of a key. A key that is present keeps its place, a new one comes last. -/
def assign {α : Type} (key : String) (value : α) : List (String × α) → List (String × α)
  | [] => [(key, value)]
  | (k, v) :: rest =>
      if k = key then (k, value) :: rest else (k, v) :: assign key value rest

theorem keys_assign {α : Type} (key : String) (value : α) (pairs : List (String × α)) :
    (assign key value pairs).map (·.1) =
      if key ∈ pairs.map (·.1) then pairs.map (·.1) else pairs.map (·.1) ++ [key] := by
  induction pairs with
  | nil => simp [assign]
  | cons pair rest ih =>
    obtain ⟨k, v⟩ := pair
    by_cases h : k = key
    · simp [assign, h]
    · have h' : key ≠ k := Ne.symm h
      simp only [assign, h, if_false, List.map_cons, ih, List.mem_cons, h', false_or]
      split <;> simp

namespace Statement

/-- Makes the statement of the given kind and points it at a table. -/
def aimAt (s : Statement) (kind : Kind) (table : String) : Statement :=
  s.become kind fun s =>
    if Text.isBlank table then s.fail (.missingTable kind)
    else { s with source := some (.sql table) }

def insertInto (s : Statement) (table : String) : Statement := s.aimAt .insert table

def updateTable (s : Statement) (table : String) : Statement := s.aimAt .update table

def deleteFrom (s : Statement) (table : String) : Statement := s.aimAt .delete table

/-- Sets the column list of an INSERT. Without one the columns are those of the named values. -/
def columns (s : Statement) (names : List String) : Statement :=
  s.ifAccepts .columnList fun s => { s with columnList := some names }

def putValue (s : Statement) (column : String) (value : Operand) : Statement :=
  let s := s.record (value.refusal? "VALUES")
  if value.lacksVerb then s
  else match s.payload with
    | none => { s with payload := some (.named [(column, value)]) }
    | some (.named pairs) => { s with payload := some (.named (assign column value pairs)) }
    | some _ => s.fail .mixedValues

/-- Adds named values, one after the other. -/
def values (s : Statement) (pairs : List (String × Operand)) : Statement :=
  s.ifAccepts .payload fun s => pairs.foldl (fun s pair => s.putValue pair.1 pair.2) s

def setColumn (s : Statement) (column : String) (value : Operand) : Statement :=
  s.ifAccepts .payload fun s => s.putValue column value

/-- Puts the operands behind the given positional values, leaving out those without a verb. -/
def extendValues (s : Statement) (kept added : List Operand) : Statement :=
  { s.record (added.findSome? (Operand.refusal? "VALUES")) with
    payload := some (.positional (kept ++ added.filter (!·.lacksVerb))) }

def valuesList (s : Statement) (added : List Operand) : Statement :=
  s.ifAccepts .payload fun s =>
    match s.payload with
    | none => s.extendValues [] added
    | some (.positional kept) => s.extendValues kept added
    | some _ => s.fail .mixedValues

/-- Inserts the rows of a nested statement, which must be a SELECT. -/
def valuesFrom (s : Statement) (child : Statement) : Statement :=
  s.ifAccepts .insertedRows fun s =>
    match child.kind with
    | none => s.fail (.emptySubquery Clause.insertedRows.name)
    | some .select =>
        if s.payload.any (!·.isEmpty) then s.fail .mixedValues
        else { s.record child.firstError with payload := some (.rows child) }
    | some kind => s.fail (.unsupportedClause "INSERT source" kind)

end Statement
end SqlBuilder
