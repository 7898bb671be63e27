import SqlBuilder.Statement.Clause

/-!
# Refusals

What every builder call checks before it changes a statement. A statement keeps the first error it
meets and goes on taking calls; a refused call changes nothing else. An error inside a nested
statement is an error of the statement around it.
-/
namespace SqlBuilder

/-- The first error inside a nested operand. -/
def Operand.error? : Operand → Option Error
  | .sql _ => none
  | .nested statement => statement.firstError

/-- What speaks against an operand that must be text or a statement with a verb. -/
def Operand.refusal? (context : String) (operand : Operand) : Option Error :=
  operand.error?.or (if operand.lacksVerb then some (.emptySubquery context) else none)

/-- Marks a nested statement as derived. -/
def Operand.embedded : Operand → Operand
  | .sql text => .sql text
  | .nested statement => .nested { statement with derived := true }

namespace Statement

/-- Keeps the error, if there is one and the statement has none yet. -/
def record (s : Statement) (error? : Option Error) : Statement :=
  { s with firstError := s.firstError.or error? }

@[simp] theorem record_none (s : Statement) : s.record none = s := by
  cases s
  simp [record]

theorem record_record (s : Statement) (first? second? : Option Error) :
    (s.record first?).record second? = s.record (first?.or second?) := by
  simp [record, Option.or_assoc]

def fail (s : Statement) (e : Error) : Statement := s.record (some e)

/-- Applies the change unless the kind of the statement excludes the clause. -/
def ifAccepts (s : Statement) (clause : Clause) (change : Statement → Statement) : Statement :=
  match s.kind with
  | none => change s
  | some kind =>
      if clause.accepts kind then change s else s.fail (.unsupportedClause clause.name kind)

/-- What holds after a refusal and after the change holds either way. -/
theorem ifAccepts_preserves {holds : Statement → Prop} {s : Statement} {clause : Clause}
    {change : Statement → Statement} (refused : ∀ e, holds (s.fail e))
    (changed : holds (change s)) : holds (s.ifAccepts clause change) := by
  unfold ifAccepts
  split
  · exact changed
  · split
    · exact changed
    · exact refused _

/-- Why the statement cannot take the verb. A statement that has its verb takes no other one; a
statement without a verb takes each verb that admits all its clauses. -/
def verbError? (s : Statement) (kind : Kind) : Option Error :=
  match s.kind with
  | some current => if current = kind then none else some (.kindConflict current kind)
  | none =>
      (Clause.checked.find? fun clause => clause.populated s && !clause.accepts kind).map
        fun clause => .unsupportedClause clause.name kind

/-- Gives the statement its verb and applies the change, unless the verb is refused. -/
def become (s : Statement) (kind : Kind) (change : Statement → Statement) : Statement :=
  match s.verbError? kind with
  | some e => s.fail e
  | none => change { s with kind := some kind }

theorem become_preserves {holds : Statement → Prop} {s : Statement} {kind : Kind}
    {change : Statement → Statement} (refused : ∀ e, holds (s.fail e))
    (changed : holds (change { s with kind := some kind })) : holds (s.become kind change) := by
  unfold become
  split
  · exact refused _
  · exact changed

end Statement
end SqlBuilder
