import SqlBuilder.Proofs.IgnoredClauses

/-!
# At any depth

What holds of a reachable statement holds of the statements stored in it, whatever the depth, since
they were built the same way (`Placed.within`). Here this is said of the errors, and of the clauses
that go with each kind (`Statement.KeepsTo`): clause calls and verb calls may come in any order, and
some of them may have been refused.
-/
namespace SqlBuilder

/-- The statement is the other one or stored in it, at any place and depth. -/
inductive Statement.Within : Statement → Statement → Prop where
  | self (s : Statement) : Within s s
  | nested {t u s : Statement} {place : Place} (stored : .nested u ∈ s.operandsAt place)
      (deeper : Within t u) : Within t s

theorem Statement.Within.trans {s t u : Statement} (inner : u.Within t) (outer : t.Within s) :
    u.Within s := by
  induction outer with
  | self => exact inner
  | nested stored _ ih => exact .nested stored ih

theorem Statement.forall_within_iff {motive : Statement → Prop} {s : Statement} :
    (∀ t : Statement, t.Within s → motive t) ↔ motive s ∧
      ∀ place u, .nested u ∈ s.operandsAt place → ∀ t : Statement, t.Within u → motive t := by
  constructor
  · intro all
    exact ⟨all s (.self s), fun place u stored t deeper => all t (.nested stored deeper)⟩
  · rintro ⟨here, below⟩ t inside
    cases inside with
    | self => exact here
    | nested stored deeper => exact below _ _ stored t deeper

namespace Placed

variable {s t : Statement}

theorem within (placed : Placed s) (inside : t.Within s) : Placed t := by
  induction inside with
  | self => exact placed
  | nested stored _ ih => exact ih (placed.nested stored).1

theorem firstError_of_within (placed : Placed s) (clean : s.firstError = none)
    (inside : t.Within s) : t.firstError = none := by
  induction inside with
  | self => exact clean
  | nested stored _ ih =>
    exact ih (placed.nested stored).1 (placed.firstError_of_nested clean stored)

end Placed

namespace Statement

/-- The fields of a statement are such as its kind takes. -/
structure KeepsTo (s : Statement) (kind : Kind) : Prop where
  query : kind ≠ .select → s.WithoutQuery
  distinct : kind ≠ .select → s.distinct = false
  paging : kind ≠ .select → s.rowLimit = none ∧ s.rowOffset = 0
  filter : kind = .insert → s.conditions = []
  payload : ∀ payload, s.payload = some payload → payload.isEmpty = false →
    kind = .insert ∨ kind = .update
  columnList : s.columnList.isSome → kind = .insert
  /-- A statement that writes rows has a table unless it was refused one. -/
  table : kind ≠ .select → (∃ table, s.source = some (.sql table) ∧ Text.isBlank table = false) ∨
    (s.source = none ∧ s.firstError.isSome)

variable {s : Statement} {kind : Kind}

theorem Compatible.keepsTo (compatible : s.Compatible) (typed : s.kind = some kind) :
    s.KeepsTo kind where
  query writes := compatible.withoutQuery typed writes
  distinct writes :=
    compatible.populated_eq_false typed .distinct (by decide) (by decide)
      (by simpa [Clause.accepts] using writes)
  paging writes := by
    have unpaged := compatible.populated_eq_false typed .paging (by decide) (by decide)
      (by simpa [Clause.accepts] using writes)
    simpa [Clause.populated] using unpaged
  filter inserts := by
    have unfiltered := compatible.populated_eq_false typed .filter (by decide) (by decide)
      (by simp [Clause.accepts, inserts])
    simpa [Clause.populated] using unfiltered
  payload payload held filled := by
    have accepted := compatible.accepted kind typed .payload (by decide) (by decide)
      (by simp [Clause.populated, held, filled])
    simpa [Clause.accepts] using accepted
  columnList held := by
    have accepted := compatible.accepted kind typed .columnList (by decide) (by decide) held
    simpa [Clause.accepts] using accepted
  table := compatible.table kind typed

end Statement

/-- In a reachable statement, and in every statement stored in it at any depth, the clauses are
those that the kind takes, also after refused calls. -/
theorem Reachable.keepsTo_kind {s t : Statement} {kind : Kind} (reachable : Reachable s)
    (inside : t.Within s) (typed : t.kind = some kind) : t.KeepsTo kind :=
  (reachable.placed.within inside).compatible.keepsTo typed

/-- An INSERT whose table name is blank, with a column list from before the verb and a refused
WHERE, as the body of a common table expression. -/
def refusedInsert : Statement :=
  ({} : Statement).run [.columns ["a"], .insertInto " ",
    .restrict .rows .replacing false (.sql "b = 1"), .setColumn "a" (.sql "1")]

def readsRefusedInsert : Statement :=
  ({} : Statement).run [.withCte "n" none false refusedInsert, .limit 1, .select [.sql "a"],
    .readFrom (.sql "n")]

theorem keepsTo_kind_refusedInsert :
    Reachable readsRefusedInsert ∧ refusedInsert.Within readsRefusedInsert ∧
      refusedInsert.kind = some .insert ∧ refusedInsert.source = none ∧
      refusedInsert.KeepsTo .insert := by
  have inner : Reachable refusedInsert := by
    apply Reachable.start.run
    simp [Place.forall_iff, Call.operandsAt, Restriction.place]
  have outer : Reachable readsRefusedInsert := by
    apply Reachable.start.run
    simp [Place.forall_iff, Call.operandsAt, inner]
  have stored : .nested refusedInsert ∈ readsRefusedInsert.operandsAt .cteBody :=
    List.mem_cons_self
  have inside : refusedInsert.Within readsRefusedInsert := .nested stored (.self refusedInsert)
  exact ⟨outer, inside, rfl, rfl, outer.keepsTo_kind inside rfl⟩

end SqlBuilder
