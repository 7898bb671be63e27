import SqlBuilder.Statement.Refusal
import SqlBuilder.Text.Blank

/-!
# Select list, sources, unions and common table expressions

The calls that say what a SELECT reads. Statements in the select list, in FROM and as join targets
become derived; join conditions, union members and the bodies of common table expressions do not.
-/
namespace SqlBuilder.Statement

/-- Puts the operands behind the given select list, leaving out those without a verb. -/
def extendSelectList (s : Statement) (kept items : List Operand) : Statement :=
  { s.record (items.findSome? (Operand.refusal? "SELECT list")) with
    selectList := kept ++ (items.filter (!·.lacksVerb)).map Operand.embedded }

/-- Makes the statement a SELECT of these items. -/
def select (s : Statement) (items : List Operand) : Statement :=
  s.become .select fun s => s.extendSelectList [] items

/-- Makes the statement a SELECT of these items as well. -/
def addSelect (s : Statement) (items : List Operand) : Statement :=
  s.become .select fun s => s.extendSelectList s.selectList items

/-- Taking DISTINCT back is never refused. -/
def selectDistinct (s : Statement) (flag : Bool) : Statement :=
  if flag then s.ifAccepts .distinct fun s => { s with distinct := true }
  else { s with distinct := false }

def readFrom (s : Statement) (source : Operand) : Statement :=
  s.ifAccepts .source fun s =>
    let s := s.record (source.refusal? "FROM")
    if source.lacksVerb then s
    else { s with source := some source.embedded, sourceAlias := none }

/-- The name belongs to the clause when the source is text and to the nested statement otherwise.
In the second case an earlier name of the clause is dropped first. -/
def readFromAs (s : Statement) (source : Operand) (name : String) : Statement :=
  s.ifAccepts .source fun s =>
    match source with
    | .sql text => { s with source := some (.sql text), sourceAlias := some name }
    | .nested child =>
        let s := { s.record (source.refusal? "FROM") with sourceAlias := none }
        if child.kind.isNone then s
        else { s with
          source := some (.nested { child with derived := true, aliasName := some name }) }

/-- The condition may be a statement without a verb, but not an empty one. -/
def join (s : Statement) (form : JoinForm) (target : Operand) (condition : Option Operand) :
    Statement :=
  s.ifAccepts .join fun s =>
    let s := s.record (target.refusal? "JOIN")
    if target.lacksVerb then s
    else
      let s := s.record (condition.bind Operand.error?)
      if condition.any fun body => body.statement?.any isEmpty then s.fail (.emptySubquery "JOIN")
      else { s with joins := s.joins ++ [⟨form, target.embedded, condition⟩] }

/-- Appends a member, which must be a SELECT. -/
def union (s : Statement) (keepDuplicates : Bool) (member : Statement) : Statement :=
  s.ifAccepts .union fun s =>
    match member.kind with
    | none => s.fail (.emptySubquery "UNION")
    | some .select =>
        { s.record member.firstError with
          unionMembers := s.unionMembers ++ [⟨member, keepDuplicates⟩] }
    | some kind => s.fail (.unsupportedClause "UNION member" kind)

/-- Registers a common table expression under a fresh name. Every kind of statement takes one, and
its body may be of any kind. One recursive expression makes the whole list recursive. -/
def withCte (s : Statement) (name : String) (columns : Option (List String)) (recursive : Bool)
    (body : Statement) : Statement :=
  if Text.isBlank name then s.fail .blankCteName
  else if s.cteNames.contains name then s.fail (.duplicateCte name)
  else if body.kind.isNone then s.fail (.emptySubquery "WITH")
  else
    { s.record body.firstError with
      ctes := s.ctes ++ [⟨name, columns, body⟩]
      recursive := s.recursive || recursive }

/-- Names the statement for the place where it is derived. -/
def aliasAs (s : Statement) (name : String) : Statement := { s with aliasName := some name }

end SqlBuilder.Statement
