import SqlBuilder.Statement.Basic

/-!
# Equality of statements

Two statements are equal when all their fields are, the hidden ones and those of nested statements
included. Comparison follows the family of types; `Statement.beq_iff_eq` says that it decides
equality.
-/
namespace SqlBuilder

mutual

def Statement.beq : Statement → Statement → Bool
  | ⟨kind, derived, aliasName, distinct, selectList, source, sourceAlias, joins, conditions,
      groupColumns, groupConditions, orderTerms, rowLimit, rowOffset, columnList, payload,
      unionMembers, ctes, recursive, firstError⟩, t =>
    kind == t.kind && derived == t.derived && aliasName == t.aliasName && distinct == t.distinct &&
      Operand.beqAll selectList t.selectList && Operand.beqOptional source t.source &&
      sourceAlias == t.sourceAlias && Join.beqAll joins t.joins &&
      Condition.beqAll conditions t.conditions && groupColumns == t.groupColumns &&
      Condition.beqAll groupConditions t.groupConditions && orderTerms == t.orderTerms &&
      rowLimit == t.rowLimit && rowOffset == t.rowOffset && columnList == t.columnList &&
      Payload.beqOptional payload t.payload && UnionMember.beqAll unionMembers t.unionMembers &&
      Cte.beqAll ctes t.ctes && recursive == t.recursive && firstError == t.firstError
termination_by structural a => a

def Operand.beq : Operand → Operand → Bool
  | .sql a, .sql b => a == b
  | .nested a, .nested b => a.beq b
  | _, _ => false
termination_by structural a => a

def Operand.beqOptional : Option Operand → Option Operand → Bool
  | none, none => true
  | some a, some b => a.beq b
  | _, _ => false
termination_by structural a => a

def Operand.beqAll : List Operand → List Operand → Bool
  | [], [] => true
  | a :: as, b :: bs => a.beq b && Operand.beqAll as bs
  | _, _ => false
termination_by structural a => a

def Join.beqAll : List Join → List Join → Bool
  | [], [] => true
  | ⟨form, target, condition⟩ :: as, b :: bs =>
      form == b.form && target.beq b.target && Operand.beqOptional condition b.condition &&
        Join.beqAll as bs
  | _, _ => false
termination_by structural a => a

def Condition.beqAll : List Condition → List Condition → Bool
  | [], [] => true
  | ⟨connector, modifier, body⟩ :: as, b :: bs =>
      connector == b.connector && modifier == b.modifier && body.beq b.body &&
        Condition.beqAll as bs
  | _, _ => false
termination_by structural a => a

def Payload.beqOptional : Option Payload → Option Payload → Bool
  | none, none => true
  | some (.positional a), some (.positional b) => Operand.beqAll a b
  | some (.named a), some (.named b) => Payload.beqPairs a b
  | some (.rows a), some (.rows b) => a.beq b
  | _, _ => false
termination_by structural a => a

def Payload.beqPairs : List (String × Operand) → List (String × Operand) → Bool
  | [], [] => true
  | (column, value) :: as, b :: bs =>
      column == b.1 && value.beq b.2 && Payload.beqPairs as bs
  | _, _ => false
termination_by structural a => a

def UnionMember.beqAll : List UnionMember → List UnionMember → Bool
  | [], [] => true
  | ⟨member, keepDuplicates⟩ :: as, b :: bs =>
      member.beq b.statement && keepDuplicates == b.keepDuplicates && UnionMember.beqAll as bs
  | _, _ => false
termination_by structural a => a

def Cte.beqAll : List Cte → List Cte → Bool
  | [], [] => true
  | ⟨name, columns, body⟩ :: as, b :: bs =>
      name == b.name && columns == b.columns && body.beq b.body && Cte.beqAll as bs
  | _, _ => false
termination_by structural a => a

end

mutual

theorem Statement.beq_iff_eq : ∀ (a b : Statement), a.beq b = true ↔ a = b
  | ⟨_, _, _, _, _, _, _, _, _, _, _, _, _, _, _, _, _, _, _, _⟩, b => by
    cases b
    simp [Statement.beq, Operand.beqAll_iff_eq, Operand.beqOptional_iff_eq, Join.beqAll_iff_eq,
      Condition.beqAll_iff_eq, Payload.beqOptional_iff_eq, UnionMember.beqAll_iff_eq,
      Cte.beqAll_iff_eq, and_assoc]

theorem Operand.beq_iff_eq : ∀ (a b : Operand), a.beq b = true ↔ a = b
  | .sql _, b => by cases b <;> simp [Operand.beq]
  | .nested _, b => by cases b <;> simp [Operand.beq, Statement.beq_iff_eq]
termination_by structural a => a

theorem Operand.beqOptional_iff_eq :
    ∀ (a b : Option Operand), Operand.beqOptional a b = true ↔ a = b
  | none, b => by cases b <;> simp [Operand.beqOptional]
  | some _, b => by cases b <;> simp [Operand.beqOptional, Operand.beq_iff_eq]
termination_by structural a => a

theorem Operand.beqAll_iff_eq : ∀ (a b : List Operand), Operand.beqAll a b = true ↔ a = b
  | [], b => by cases b <;> simp [Operand.beqAll]
  | _ :: _, b => by
    cases b <;> simp [Operand.beqAll, Operand.beq_iff_eq, Operand.beqAll_iff_eq]
termination_by structural a => a

theorem Join.beqAll_iff_eq : ∀ (a b : List Join), Join.beqAll a b = true ↔ a = b
  | [], b => by cases b <;> simp [Join.beqAll]
  | ⟨_, _, _⟩ :: _, [] => by simp [Join.beqAll]
  | ⟨_, _, _⟩ :: _, ⟨_, _, _⟩ :: _ => by
    simp [Join.beqAll, Operand.beq_iff_eq, Operand.beqOptional_iff_eq, Join.beqAll_iff_eq,
      and_assoc]
termination_by structural a => a

theorem Condition.beqAll_iff_eq : ∀ (a b : List Condition), Condition.beqAll a b = true ↔ a = b
  | [], b => by cases b <;> simp [Condition.beqAll]
  | ⟨_, _, _⟩ :: _, [] => by simp [Condition.beqAll]
  | ⟨_, _, _⟩ :: _, ⟨_, _, _⟩ :: _ => by
    simp [Condition.beqAll, Operand.beq_iff_eq, Condition.beqAll_iff_eq, and_assoc]
termination_by structural a => a

theorem Payload.beqOptional_iff_eq :
    ∀ (a b : Option Payload), Payload.beqOptional a b = true ↔ a = b
  | none, b => by cases b <;> simp [Payload.beqOptional]
  | some (.positional _), b => by
    rcases b with _ | (_ | _ | _) <;> simp [Payload.beqOptional, Operand.beqAll_iff_eq]
  | some (.named _), b => by
    rcases b with _ | (_ | _ | _) <;> simp [Payload.beqOptional, Payload.beqPairs_iff_eq]
  | some (.rows _), b => by
    rcases b with _ | (_ | _ | _) <;> simp [Payload.beqOptional, Statement.beq_iff_eq]
termination_by structural a => a

theorem Payload.beqPairs_iff_eq :
    ∀ (a b : List (String × Operand)), Payload.beqPairs a b = true ↔ a = b
  | [], b => by cases b <;> simp [Payload.beqPairs]
  | (_, _) :: _, [] => by simp [Payload.beqPairs]
  | (_, _) :: _, (_, _) :: _ => by
    simp [Payload.beqPairs, Operand.beq_iff_eq, Payload.beqPairs_iff_eq]
termination_by structural a => a

theorem UnionMember.beqAll_iff_eq :
    ∀ (a b : List UnionMember), UnionMember.beqAll a b = true ↔ a = b
  | [], b => by cases b <;> simp [UnionMember.beqAll]
  | ⟨_, _⟩ :: _, [] => by simp [UnionMember.beqAll]
  | ⟨_, _⟩ :: _, ⟨_, _⟩ :: _ => by
    simp [UnionMember.beqAll, Statement.beq_iff_eq, UnionMember.beqAll_iff_eq]
termination_by structural a => a

theorem Cte.beqAll_iff_eq : ∀ (a b : List Cte), Cte.beqAll a b = true ↔ a = b
  | [], b => by cases b <;> simp [Cte.beqAll]
  | ⟨_, _, _⟩ :: _, [] => by simp [Cte.beqAll]
  | ⟨_, _, _⟩ :: _, ⟨_, _, _⟩ :: _ => by
    simp [Cte.beqAll, Statement.beq_iff_eq, Cte.beqAll_iff_eq, and_assoc]
termination_by structural a => a

end

instance : DecidableEq Statement := fun _ _ => decidable_of_iff _ (Statement.beq_iff_eq _ _)

end SqlBuilder
