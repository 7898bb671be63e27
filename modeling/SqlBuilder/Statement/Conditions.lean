import SqlBuilder.Statement.Refusal

/-!
# Conditions

WHERE restricts rows and HAVING restricts groups; both are flat lists of conditions that read as
they were given, without precedence. The first condition of a list has no connector.
-/
namespace SqlBuilder

abbrev ConditionGroup := List Condition

/-- Appends a condition. The connector is dropped where there is nothing to connect to. -/
def ConditionGroup.push (group : ConditionGroup) (connector : Connector)
    (modifier : Option Modifier) (body : Operand) : ConditionGroup :=
  group ++ [⟨if group.isEmpty then none else some connector, modifier, body⟩]

/-- What a condition restricts. -/
inductive Restriction where
  | rows | groups
  deriving DecidableEq, Repr

def Restriction.clause : Restriction → Clause
  | rows => .filter
  | groups => .groupFilter

/-- Whether a condition starts its group afresh or is joined to the conditions before it. -/
inductive Placement where
  | replacing
  | joinedBy (connector : Connector)
  deriving DecidableEq, Repr

/-- A condition that starts its group is offered with AND, which the group then drops. -/
def Placement.connector : Placement → Connector
  | replacing => .and
  | joinedBy connector => connector

namespace Statement

def conditionsOn (s : Statement) : Restriction → ConditionGroup
  | .rows => s.conditions
  | .groups => s.groupConditions

def setConditionsOn (s : Statement) : Restriction → ConditionGroup → Statement
  | .rows, group => { s with conditions := group }
  | .groups, group => { s with groupConditions := group }

/-- Appends a condition. Empty text adds none; a nested statement must not be empty. -/
def pushCondition (s : Statement) (restriction : Restriction) (connector : Connector)
    (modifier : Option Modifier) (body : Operand) : Statement :=
  if body.isEmpty then
    match body with
    | .sql _ => s
    | .nested _ => s.fail (.emptySubquery restriction.clause.name)
  else
    (s.setConditionsOn restriction
      ((s.conditionsOn restriction).push connector modifier body)).record body.error?

/-- A condition that replaces its group clears the group even if the condition is refused. -/
def restrict (s : Statement) (restriction : Restriction) (placement : Placement)
    (modifier : Option Modifier) (body : Operand) : Statement :=
  s.ifAccepts restriction.clause fun s =>
    let s := match placement with
      | .replacing => s.setConditionsOn restriction []
      | .joinedBy _ => s
    s.pushCondition restriction placement.connector modifier body

/-- Replaces the group by these conditions, joined by AND. -/
def restrictAll (s : Statement) (restriction : Restriction) (bodies : List Operand) : Statement :=
  s.ifAccepts restriction.clause fun s =>
    bodies.foldl (fun s body => s.pushCondition restriction .and none body)
      (s.setConditionsOn restriction [])

/-- Restricts rows by whether the nested statement has any. Unlike other conditions, an empty
nested statement leaves the group as it was. -/
def restrictByExistence (s : Statement) (placement : Placement) (negated : Bool)
    (child : Statement) : Statement :=
  if child.isEmpty then s.ifAccepts .filter fun s => s.fail (.emptySubquery "EXISTS")
  else
    s.restrict .rows placement (some (if negated then .notExists else .exists)) (.nested child)

end Statement
end SqlBuilder
