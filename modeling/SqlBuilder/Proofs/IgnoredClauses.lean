import SqlBuilder.Proofs.Compatibility

/-!
# Clauses that the renderer ignores

The renderer of a kind writes the clauses that the kind accepts. By `Statement.Compatible` the
others are empty, and so are those of a statement that renders without a verb; here this is said of
the fields themselves and of the places that store operands.
-/
namespace SqlBuilder.Statement

variable {s : Statement}

/-- The statement holds no clause that only a SELECT takes. -/
structure WithoutQuery (s : Statement) : Prop where
  selectList : s.selectList = []
  sourceAlias : s.sourceAlias = none
  joins : s.joins = []
  groupColumns : s.groupColumns = []
  groupConditions : s.groupConditions = []
  unionMembers : s.unionMembers = []
  orderTerms : s.orderTerms = []

theorem withoutQuery_of_unpopulated (unaliased : s.sourceAlias = none)
    (unpopulated : ∀ clause ∈ Clause.checked, clause ≠ .source → clause.accepts .insert = false →
      clause.accepts .update = false → clause.populated s = false) : s.WithoutQuery := by
  refine ⟨?_, unaliased, ?_, ?_, ?_, ?_, ?_⟩
  · simpa [Clause.populated] using unpopulated .selectList (by decide) (by decide) rfl rfl
  · simpa [Clause.populated] using unpopulated .join (by decide) (by decide) rfl rfl
  · simpa [Clause.populated] using unpopulated .grouping (by decide) (by decide) rfl rfl
  · simpa [Clause.populated] using unpopulated .groupFilter (by decide) (by decide) rfl rfl
  · simpa [Clause.populated] using unpopulated .union (by decide) (by decide) rfl rfl
  · simpa [Clause.populated] using unpopulated .ordering (by decide) (by decide) rfl rfl

/-- A clause that the kind does not accept is empty. -/
theorem Compatible.populated_eq_false {kind : Kind} (compatible : s.Compatible)
    (typed : s.kind = some kind) (clause : Clause) (checked : clause ∈ Clause.checked)
    (notSource : clause ≠ .source) (refused : clause.accepts kind = false) :
    clause.populated s = false := by
  cases populated : clause.populated s with
  | false => rfl
  | true =>
    rw [compatible.accepted kind typed clause checked notSource populated] at refused
    cases refused

theorem Compatible.withoutQuery {kind : Kind} (compatible : s.Compatible)
    (typed : s.kind = some kind) (writes : kind ≠ .select) : s.WithoutQuery := by
  refine withoutQuery_of_unpopulated ?_ ?_
  · cases named : s.sourceAlias with
    | none => rfl
    | some name =>
      have readable := (compatible.aliased (by rw [named]; rfl)).2
      rw [typed] at readable
      simp [writes] at readable
  · intro clause checked notSource notInsert notUpdate
    apply compatible.populated_eq_false typed clause checked notSource
    cases clause <;> cases kind <;> simp_all [Clause.accepts]

theorem isEmpty_iff :
    s.isEmpty = true ↔ s.kind = none ∧ s.conditions = [] ∧ s.strayClause? = none := by
  simp only [isEmpty, Bool.and_eq_true, Option.isNone_iff_eq_none, List.isEmpty_iff, and_assoc]

/-- Nothing but conditions stands on a statement that renders without a verb. -/
theorem strayClause?_eq_none_iff (untyped : s.kind = none) :
    s.strayClause? = none ↔ s.ctes = [] ∧
      ∀ clause ∈ Clause.checked, clause ≠ .filter → clause.populated s = false := by
  rw [strayClause?, untyped]
  by_cases unnamed : s.ctes = []
  · simp only [Option.isSome_none, unnamed, List.isEmpty_nil, Bool.not_true, Bool.false_eq_true,
      if_false, Option.map_eq_none_iff, List.find?_eq_none, true_and]
    refine forall₂_congr fun clause _ => ?_
    cases clause.populated s <;> simp
  · simp [unnamed]

/-- The conditions apart, a statement that renders without a verb is empty. -/
theorem Compatible.withoutQuery_of_strayClause? (compatible : s.Compatible)
    (untyped : s.kind = none) (bare : s.strayClause? = none) :
    s.WithoutQuery ∧ s.source = none := by
  obtain ⟨_, unpopulated⟩ := (strayClause?_eq_none_iff untyped).mp bare
  have sourceless : s.source = none := by
    simpa [Clause.populated] using unpopulated .source (by decide) (by decide)
  refine ⟨withoutQuery_of_unpopulated ?_ fun clause checked _ _ refused => ?_, sourceless⟩
  · cases named : s.sourceAlias with
    | none => rfl
    | some name =>
      have hasSource := (compatible.aliased (by rw [named]; rfl)).1
      rw [sourceless] at hasSource
      cases hasSource
  · apply unpopulated clause checked
    rintro rfl
    cases refused

/-- A statement that writes rows and has no error has a table. -/
theorem Compatible.exists_table {kind : Kind} (compatible : s.Compatible)
    (clean : s.firstError = none) (typed : s.kind = some kind) (writes : kind ≠ .select) :
    ∃ table, s.source = some (.sql table) := by
  rcases compatible.table kind typed writes with ⟨table, aimed, _⟩ | ⟨_, failed⟩
  · exact ⟨table, aimed⟩
  · rw [clean] at failed
    cases failed

theorem WithoutQuery.operandsAt_eq_nil (without : s.WithoutQuery) :
    s.operandsAt .selectList = [] ∧ s.operandsAt .joinTarget = [] ∧
      s.operandsAt .joinCondition = [] ∧ s.operandsAt .groupFilter = [] ∧
      s.operandsAt .unionMember = [] := by
  simp [operandsAt, without.selectList, without.joins, without.groupConditions,
    without.unionMembers]

/-- An empty payload stores nothing. -/
theorem operandsAt_eq_nil_of_unpaid (unpaid : Clause.payload.populated s = false) :
    s.operandsAt .value = [] ∧ s.operandsAt .insertedRows = [] := by
  rw [operandsAt, operandsAt]
  rcases held : s.payload with _ | values | pairs | rows
  · exact ⟨rfl, rfl⟩
  · obtain rfl : values = [] := by simpa [Clause.populated, held, Payload.isEmpty] using unpaid
    exact ⟨rfl, rfl⟩
  · obtain rfl : pairs = [] := by simpa [Clause.populated, held, Payload.isEmpty] using unpaid
    exact ⟨rfl, rfl⟩
  · simp [Clause.populated, held, Payload.isEmpty] at unpaid

end SqlBuilder.Statement
