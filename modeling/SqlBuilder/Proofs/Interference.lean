import SqlBuilder.Proofs.Facets
import SqlBuilder.Proofs.RenderedParts

/-!
# Interference

Calls of different families do not interfere. A run without verbs leaves each facet as the calls of
its family alone leave it (`Statement.facet_run`), and it meets an error exactly if the calls of
some family meet one by themselves, so calls may change places as long as each family keeps its
order (`Statement.run_reordered`). The first error interferes with nothing: it stays, and all later
calls are applied as if it were not there (`Statement.run_firstError_inert`).
-/
namespace SqlBuilder

namespace Call

/-- The calls of one family, in their order. -/
def family (facet : Facet) (calls : List Call) : List Call := calls.filter (·.facet = facet)

theorem family_cons_self (c : Call) (rest : List Call) :
    family c.facet (c :: rest) = c :: family c.facet rest :=
  List.filter_cons_of_pos (decide_eq_true rfl)

theorem family_cons_of_ne {facet : Facet} {c : Call} (different : facet ≠ c.facet)
    (rest : List Call) : family facet (c :: rest) = family facet rest :=
  List.filter_cons_of_neg fun same => different (of_decide_eq_true same).symm

theorem mem_family {facet : Facet} {c : Call} {calls : List Call}
    (member : c ∈ family facet calls) : c ∈ calls ∧ c.facet = facet := by
  obtain ⟨inRun, same⟩ := List.mem_filter.mp member
  exact ⟨inRun, of_decide_eq_true same⟩

/-- The same calls in another order, in which those of one family follow each other as before. -/
structure Reordered (calls calls' : List Call) : Prop where
  perm : calls.Perm calls'
  sameOrder : ∀ facet, family facet calls = family facet calls'

end Call

namespace Statement

variable {s t : Statement} {calls calls' : List Call}

/-! ### Calls of different families -/

/-- The calls of one family in a run without verbs act on its facet. -/
theorem run_family_actsOn (clauses : ∀ c ∈ calls, c.verb? = none) (facet : Facet) :
    ActsOn facet fun s => s.run (Call.family facet calls) := by
  apply run_actsOn
  intro c member
  exact (Call.mem_family member).imp_left (clauses c)

/-- What a run leaves in a facet is left there by the calls of its family. -/
theorem facet_run (clauses : ∀ c ∈ calls, c.verb? = none) (s : Statement) (facet : Facet) :
    (s.run calls).facet facet = ((s.facet facet).run (Call.family facet calls)).facet facet := by
  induction calls generalizing s with
  | nil => exact (s.facet_facet facet).symm
  | cons c rest ih =>
    obtain ⟨clause, later⟩ := List.forall_mem_cons.mp clauses
    have acts := apply_actsOn clause
    rw [run_cons, ih later]
    by_cases same : facet = c.facet
    · subst same
      rw [Call.family_cons_self, run_cons, acts.facet_eq s]
      exact ((run_family_actsOn later _).facet_eq _).symm
    · rw [Call.family_cons_of_ne same, acts.facet_eq_of_ne same]

/-- A run meets an error exactly if the calls of some family meet one. -/
theorem isSome_firstError_run_iff (clauses : ∀ c ∈ calls, c.verb? = none) (s : Statement) :
    (s.run calls).firstError.isSome ↔ s.firstError.isSome ∨
      ∃ facet, ((s.facet facet).run (Call.family facet calls)).firstError.isSome := by
  induction calls generalizing s with
  | nil => simp [run, Call.family]
  | cons c rest ih =>
    obtain ⟨clause, later⟩ := List.forall_mem_cons.mp clauses
    have acts := apply_actsOn clause
    -- The family of `c` meets what `c` meets and what the rest of it meets behind `c`.
    have own : ((s.facet c.facet).run (Call.family c.facet (c :: rest))).firstError.isSome ↔
        ((s.facet c.facet).apply c).firstError.isSome ∨
          (((s.apply c).facet c.facet).run (Call.family c.facet rest)).firstError.isSome := by
      rw [Call.family_cons_self, run_cons, (run_family_actsOn later _).firstError,
        ← acts.facet_eq s, Option.isSome_or, Bool.or_eq_true]
    have other : ∀ facet, facet ≠ c.facet → (s.facet facet).run (Call.family facet (c :: rest)) =
        ((s.apply c).facet facet).run (Call.family facet rest) := by
      intro facet different
      rw [Call.family_cons_of_ne different, acts.facet_eq_of_ne different]
    rw [run_cons, ih later, acts.firstError s, Option.isSome_or, Bool.or_eq_true, or_assoc]
    refine or_congr_right ?_
    constructor
    · rintro (met | ⟨facet, met⟩)
      · exact ⟨c.facet, own.mpr (.inl met)⟩
      · by_cases same : facet = c.facet
        · subst same
          exact ⟨c.facet, own.mpr (.inr met)⟩
        · exact ⟨facet, (other facet same).symm ▸ met⟩
    · rintro ⟨facet, met⟩
      by_cases same : facet = c.facet
      · subst same
        exact (own.mp met).imp_right fun behind => ⟨c.facet, behind⟩
      · exact .inr ⟨facet, other facet same ▸ met⟩

/-- Calls without a verb that change places without overtaking one of their own family lead to the
same statement, up to which of the errors comes first. -/
theorem run_reordered (clauses : ∀ c ∈ calls, c.verb? = none)
    (reordered : Call.Reordered calls calls') (s : Statement) :
    (s.run calls).withoutError = (s.run calls').withoutError ∧
      ((s.run calls).firstError.isSome ↔ (s.run calls').firstError.isSome) := by
  have clauses' : ∀ c ∈ calls', c.verb? = none :=
    fun c member => clauses c (reordered.perm.mem_iff.mpr member)
  constructor
  · rw [withoutError_eq_iff]
    intro facet
    rw [facet_run clauses, facet_run clauses', reordered.sameOrder]
  · rw [isSome_firstError_run_iff clauses, isSome_firstError_run_iff clauses']
    simp only [reordered.sameOrder]

/-- What a SELECT refuses of this run is its column list, and then the blank name. -/
def refusedColumnsFirst : List Call :=
  [.columns ["a"], .limit 5, .withCte " " none false readsTable, .offset 2]

/-- The same calls, the column list among the last. -/
def refusedColumnsLater : List Call :=
  [.limit 5, .withCte " " none false readsTable, .columns ["a"], .offset 2]

theorem run_reordered_refusedColumns :
    Reachable readsTable ∧ (∀ c ∈ refusedColumnsFirst, c.verb? = none) ∧
      Call.Reordered refusedColumnsFirst refusedColumnsLater ∧
      (readsTable.run refusedColumnsFirst).firstError =
        some (.unsupportedClause "column list" .select) ∧
      (readsTable.run refusedColumnsLater).firstError = some .blankCteName ∧
      (readsTable.run refusedColumnsFirst).withoutError =
        (readsTable.run refusedColumnsLater).withoutError := by
  have clauses : ∀ c ∈ refusedColumnsFirst, c.verb? = none := by
    simp [refusedColumnsFirst, Call.verb?]
  have moved : Call.Reordered refusedColumnsFirst refusedColumnsLater := by
    constructor
    · exact (List.Perm.swap _ _ _).trans ((List.Perm.swap _ _ _).cons _)
    · intro facet
      cases facet <;> rfl
  refine ⟨reachable_readsTable, clauses, moved, ?_, ?_, (run_reordered clauses moved readsTable).1⟩
  · decide +kernel
  · decide +kernel

/-! ### The first error -/

theorem withoutError_become {kind : Kind} {change : Statement → Statement}
    (blind : ∀ t, (change t).withoutError = (change t.withoutError).withoutError)
    (s : Statement) :
    (s.become kind change).withoutError = (s.withoutError.become kind change).withoutError := by
  have same : s.withoutError.verbError? kind = s.verbError? kind := rfl
  rw [become, become, same]
  split
  · rfl
  · exact blind _

/-- No call looks at the error that the statement has. -/
theorem withoutError_apply (s : Statement) (c : Call) :
    (s.apply c).withoutError = (s.withoutError.apply c).withoutError := by
  have aimed (kind : Kind) (table : String) :
      (s.aimAt kind table).withoutError = (s.withoutError.aimAt kind table).withoutError := by
    refine withoutError_become (fun t => ?_) s
    split <;> rfl
  cases clause : c.verb? with
  | none =>
    have acts (t : Statement) : t.apply c = t.put c.facet ((t.facet c.facet).apply c) :=
      apply_actsOn clause t
    rw [acts s, acts s.withoutError, facet_withoutError, withoutError_put]
  | some verb =>
    cases c with
    | select items => exact withoutError_become (fun _ => rfl) s
    | addSelect items => exact withoutError_become (fun _ => rfl) s
    | insertInto table => exact aimed .insert table
    | updateTable table => exact aimed .update table
    | deleteFrom table => exact aimed .delete table
    | _ => cases clause

theorem withoutError_run (same : s.withoutError = t.withoutError) (calls : List Call) :
    (s.run calls).withoutError = (t.run calls).withoutError := by
  induction calls generalizing s t with
  | nil => exact same
  | cons c rest ih =>
    have next : (s.apply c).withoutError = (t.apply c).withoutError := by
      rw [withoutError_apply, same, ← withoutError_apply]
    exact ih next

theorem firstError_run {e : Error} (failed : s.firstError = some e) (calls : List Call) :
    (s.run calls).firstError = some e := by
  induction calls generalizing s with
  | nil => exact failed
  | cons c rest ih => exact ih ((s.apply_takesFrom c).sticky e failed)

end Statement

/-- A statement with an error fails with it, and nothing is logged. -/
theorem Renderer.render_of_firstError (r : Renderer) {s : Statement} {e : Error}
    (failed : s.firstError = some e) : r.render s = ⟨.error e, []⟩ := by
  have rendered : s.render r.pagination = .error e := by
    rw [Statement.render_eq_text, Statement.text, failed]
  rw [Renderer.render, rendered]

/-- The first error does not change how calls are applied, and no call takes it away: the statement
has it after any run, and every renderer fails with it. -/
theorem Statement.run_firstError_inert (calls : List Call) :
    (∀ s t : Statement, s.withoutError = t.withoutError →
        (s.run calls).withoutError = (t.run calls).withoutError) ∧
      ∀ (s : Statement) (e : Error), s.firstError = some e →
        (s.run calls).firstError = some e ∧
          ∀ r : Renderer, r.render (s.run calls) = ⟨.error e, []⟩ := by
  refine ⟨fun s t same => withoutError_run same calls, fun s e failed => ?_⟩
  have kept := firstError_run failed calls
  exact ⟨kept, fun r => r.render_of_firstError kept⟩

/-- A SELECT that was refused a column list. -/
def refusedColumns : Statement := readsTable.apply (.columns ["a"])

/-- The second of these is refused as well, and the others are applied. -/
def furtherCalls : List Call :=
  [.limit 1, .withCte " " none false readsTable, .orderBy [("a", .ascending)]]

theorem Statement.run_firstError_inert_refusedColumns :
    refusedColumns.withoutError = readsTable.withoutError ∧
      refusedColumns.firstError = some (.unsupportedClause "column list" .select) ∧
      (readsTable.run furtherCalls).firstError = some .blankCteName ∧
      (refusedColumns.run furtherCalls).withoutError =
        (readsTable.run furtherCalls).withoutError ∧
      (default : Renderer).render (refusedColumns.run furtherCalls) =
        ⟨.error (.unsupportedClause "column list" .select), []⟩ := by
  have inert := Statement.run_firstError_inert furtherCalls
  refine ⟨rfl, rfl, ?_, inert.1 refusedColumns readsTable rfl, ?_⟩
  · decide +kernel
  · exact (inert.2 refusedColumns _ rfl).2 default

end SqlBuilder
