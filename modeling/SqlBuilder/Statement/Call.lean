import SqlBuilder.Statement.Sources
import SqlBuilder.Statement.Conditions
import SqlBuilder.Statement.Arrangement
import SqlBuilder.Statement.Writing

/-!
# Builder calls

The calls of the builder as data, and a run of calls as one left fold. Nested statements are built
before they are handed to a call, so a call holds finished statements.
-/
namespace SqlBuilder

inductive Call where
  | select (items : List Operand)
  | addSelect (items : List Operand)
  | selectDistinct (flag : Bool)
  | readFrom (source : Operand)
  | readFromAs (source : Operand) (name : String)
  | join (form : JoinForm) (target : Operand) (condition : Option Operand)
  | union (keepDuplicates : Bool) (member : Statement)
  | withCte (name : String) (columns : Option (List String)) (recursive : Bool) (body : Statement)
  | aliasAs (name : String)
  | restrict (restriction : Restriction) (placement : Placement) (negated : Bool) (body : Operand)
  | restrictAll (restriction : Restriction) (bodies : List Operand)
  | restrictByExistence (placement : Placement) (negated : Bool) (child : Statement)
  | groupBy (columns : List String)
  | addGroupBy (columns : List String)
  | orderBy (terms : List (String × Direction))
  | addOrderBy (terms : List (String × Direction))
  | limit (count : UInt64)
  | offset (count : UInt64)
  | paginate (page perPage : UInt64)
  | insertInto (table : String)
  | updateTable (table : String)
  | deleteFrom (table : String)
  | columns (names : List String)
  | values (pairs : List (String × Operand))
  | setColumn (column : String) (value : Operand)
  | valuesList (added : List Operand)
  | valuesFrom (child : Statement)

namespace Statement

def apply (s : Statement) : Call → Statement
  | .select items => s.select items
  | .addSelect items => s.addSelect items
  | .selectDistinct flag => s.selectDistinct flag
  | .readFrom source => s.readFrom source
  | .readFromAs source name => s.readFromAs source name
  | .join form target condition => s.join form target condition
  | .union keepDuplicates member => s.union keepDuplicates member
  | .withCte name columns recursive body => s.withCte name columns recursive body
  | .aliasAs name => s.aliasAs name
  | .restrict restriction placement negated body =>
      s.restrict restriction placement (if negated then some .not else none) body
  | .restrictAll restriction bodies => s.restrictAll restriction bodies
  | .restrictByExistence placement negated child => s.restrictByExistence placement negated child
  | .groupBy columns => s.groupBy columns
  | .addGroupBy columns => s.addGroupBy columns
  | .orderBy terms => s.orderBy terms
  | .addOrderBy terms => s.addOrderBy terms
  | .limit count => s.limit count
  | .offset count => s.offset count
  | .paginate page perPage => s.paginate page perPage
  | .insertInto table => s.insertInto table
  | .updateTable table => s.updateTable table
  | .deleteFrom table => s.deleteFrom table
  | .columns names => s.columns names
  | .values pairs => s.values pairs
  | .setColumn column value => s.setColumn column value
  | .valuesList added => s.valuesList added
  | .valuesFrom child => s.valuesFrom child

def run (s : Statement) (calls : List Call) : Statement := calls.foldl apply s

theorem run_cons (s : Statement) (c : Call) (calls : List Call) :
    s.run (c :: calls) = (s.apply c).run calls := rfl

theorem run_append (s : Statement) (first second : List Call) :
    s.run (first ++ second) = (s.run first).run second :=
  List.foldl_append

end Statement
end SqlBuilder
