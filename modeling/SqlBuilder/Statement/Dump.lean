import SqlBuilder.Statement.Basic

/-!
# Dumps

A dump shows a statement on one line with every field, also those that its text leaves out and those
of refused calls. Absent values, lists and nested statements each have one fixed spelling.
-/
namespace SqlBuilder

namespace Dump

/-- The characters that a quoted text spells with a backslash. -/
def escape : Char → String
  | '"' => "\\\""
  | '\\' => "\\\\"
  | '\n' => "\\n"
  | '\r' => "\\r"
  | '\t' => "\\t"
  | '\x00' => "\\0"
  | c => String.singleton c

def quoted (text : String) : String := "\"" ++ String.join (text.toList.map escape) ++ "\""

def listed (items : List String) : String := "[" ++ ", ".intercalate items ++ "]"

/-- A value under the name of its form. -/
def tagged (form value : String) : String := form ++ "(" ++ value ++ ")"

def optional : Option String → String
  | none => "None"
  | some value => tagged "Some" value

def pair (first second : String) : String := "(" ++ first ++ ", " ++ second ++ ")"

/-- A record with its fields in order. -/
def fields (form : String) (entries : List (String × String)) : String :=
  form ++ " \x7b " ++ ", ".intercalate (entries.map fun entry => entry.1 ++ ": " ++ entry.2) ++
    " \x7d"

def flag (value : Bool) : String := if value then "true" else "false"

def texts (values : List String) : String := listed (values.map quoted)

def word (n : UInt64) : String := n.toNat.repr

def kind : Kind → String
  | .select => "Select"
  | .insert => "Insert"
  | .update => "Update"
  | .delete => "Delete"

def direction : Direction → String
  | .ascending => "Asc"
  | .descending => "Desc"

def joinForm : JoinForm → String
  | .inner => "Inner"
  | .left => "Left"
  | .right => "Right"
  | .full => "Full"
  | .cross => "Cross"

def connector : Connector → String
  | .and => "And"
  | .or => "Or"

def modifier : Modifier → String
  | .not => "Not"
  | .exists => "Exists"
  | .notExists => "NotExists"

def error : Error → String
  | .kindConflict current requested =>
      fields "KindConflict" [("current", kind current), ("requested", kind requested)]
  | .unsupportedClause clause k =>
      fields "UnsupportedClause" [("clause", quoted clause), ("kind", kind k)]
  | .missingTable k => tagged "MissingTable" (kind k)
  | .emptySubquery context => tagged "EmptySubquery" (quoted context)
  | .duplicateCte name => tagged "DuplicateCte" (quoted name)
  | .mixedValues => "MixedValues"
  | .validation reason => tagged "Validation" (quoted reason)

def conditionGroup (conditions : List String) : String :=
  fields "ConditionGroup" [("conditions", listed conditions)]

end Dump

open Dump in
mutual

def Statement.dump : Statement → String
  | ⟨kind, derived, aliasName, distinct, selectList, source, sourceAlias, joins, conditions,
      groupColumns, groupConditions, orderTerms, rowLimit, rowOffset, columnList, payload,
      unionMembers, ctes, recursive, firstError⟩ =>
    fields "Query"
      [("kind", optional (kind.map Dump.kind)),
        ("is_subquery", flag derived),
        ("alias", optional (aliasName.map quoted)),
        ("distinct", flag distinct),
        ("select_list", listed (Operand.dumpAll selectList)),
        ("source", optional (Operand.dumpOptional source)),
        ("source_alias", optional (sourceAlias.map quoted)),
        ("joins", listed (Join.dumpAll joins)),
        ("where_group", conditionGroup (Condition.dumpAll conditions)),
        ("group_by", texts groupColumns),
        ("having_group", conditionGroup (Condition.dumpAll groupConditions)),
        ("order_by", listed (orderTerms.map fun term => pair (quoted term.1) (direction term.2))),
        ("limit", optional (rowLimit.map word)),
        ("offset", word rowOffset),
        ("columns", optional (columnList.map texts)),
        ("values", Payload.dumpOptional payload),
        ("unions", listed (UnionMember.dumpAll unionMembers)),
        ("ctes", listed (Cte.dumpAll ctes)),
        ("recursive", flag recursive),
        ("build_error", optional (firstError.map error))]

def Operand.dump : Operand → String
  | .sql text => tagged "Raw" (quoted text)
  | .nested statement => tagged "Query" statement.dump

def Operand.dumpOptional : Option Operand → Option String
  | none => none
  | some operand => some operand.dump

def Operand.dumpAll : List Operand → List String
  | [] => []
  | operand :: rest => operand.dump :: Operand.dumpAll rest

def Join.dumpAll : List Join → List String
  | [] => []
  | ⟨form, target, condition⟩ :: rest =>
      fields "Join"
        [("join_type", joinForm form), ("target", target.dump),
          ("on", optional (Operand.dumpOptional condition))] :: Join.dumpAll rest

def Condition.dumpAll : List Condition → List String
  | [] => []
  | ⟨connector, modifier, body⟩ :: rest =>
      fields "Condition"
        [("connector", optional (connector.map Dump.connector)),
          ("prefix", optional (modifier.map Dump.modifier)), ("body", body.dump)] ::
        Condition.dumpAll rest

def Payload.dumpOptional : Option Payload → String
  | none => "Empty"
  | some (.positional values) => tagged "Positional" (listed (Operand.dumpAll values))
  | some (.named pairs) => tagged "Named" (listed (Payload.dumpPairs pairs))
  | some (.rows statement) => tagged "Select" statement.dump

def Payload.dumpPairs : List (String × Operand) → List String
  | [] => []
  | (column, value) :: rest => pair (quoted column) value.dump :: Payload.dumpPairs rest

def UnionMember.dumpAll : List UnionMember → List String
  | [] => []
  | ⟨member, keepDuplicates⟩ :: rest =>
      fields "Union" [("query", member.dump), ("all", flag keepDuplicates)] ::
        UnionMember.dumpAll rest

def Cte.dumpAll : List Cte → List String
  | [] => []
  | ⟨name, columns, body⟩ :: rest =>
      fields "Cte"
        [("name", quoted name), ("columns", optional (columns.map texts)),
          ("query", body.dump)] :: Cte.dumpAll rest

end

end SqlBuilder
