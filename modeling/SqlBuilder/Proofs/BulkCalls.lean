import SqlBuilder.Statement.Method
import SqlBuilder.Proofs.RefusedCalls
import SqlBuilder.Proofs.VerbPosition

/-!
# Bulk calls, one by one

A method that takes a list can be spelled out as several calls that take its parts
(`Call.SpelledAs`). The bulk call passes its gate once and the others each time, and each of the
others takes up what the one before it left. Gates and verbs look at the kind alone once they have
been passed, so the outcome is the same statement, its error included
(`Statement.apply_eq_run_of_spelledAs`).
-/
namespace SqlBuilder

/-- The calls that a bulk call stands for. -/
inductive Call.SpelledAs : Call → List Call → Prop where
  | whereAll (body : Operand) (rest : List Operand) :
      SpelledAs (Method.whereAll (body :: rest)) (Method.where_ body :: rest.map Method.andWhere)
  | havingAll (body : Operand) (rest : List Operand) :
      SpelledAs (Method.havingAll (body :: rest)) (Method.having body :: rest.map Method.andHaving)
  | select (first later : List Operand) :
      SpelledAs (.select (first ++ later)) [.select first, .addSelect later]
  | groupBy (first later : List String) :
      SpelledAs (.groupBy (first ++ later)) [.groupBy first, .addGroupBy later]
  | orderByAll (term : String × Direction) (rest : List (String × Direction)) :
      SpelledAs (Method.orderByAll (term :: rest))
        (Method.orderBy term.1 term.2 :: rest.map fun term => Method.addOrderBy term.1 term.2)
  | values (pair : String × Operand) (rest : List (String × Operand)) :
      SpelledAs (.values (pair :: rest)) ((pair :: rest).map fun pair => .setColumn pair.1 pair.2)
  | set (pair : String × Operand) (rest : List (String × Operand)) :
      SpelledAs (Method.set (pair :: rest))
        ((pair :: rest).map fun pair => .setColumn pair.1 pair.2)
  | valuesList (first later : List Operand) :
      SpelledAs (.valuesList (first ++ later)) [.valuesList first, .valuesList later]

namespace Statement

section Gates

variable {s t : Statement} {clause : Clause} {kind : Kind} {change next : Statement → Statement}
  {e : Error}

theorem fail_fail (s : Statement) (e : Error) : (s.fail e).fail e = s.fail e := by
  rw [fail, fail, record_record, Option.or_self]

theorem gateError?_congr (same : t.kind = s.kind) : t.gateError? clause = s.gateError? clause := by
  rw [gateError?, gateError?, same]

/-- A gate that is passed once is passed again, and one that refuses does so with the same error. -/
theorem ifAccepts_ifAccepts (kept : ∀ t, (change t).kind = t.kind) :
    (s.ifAccepts clause change).ifAccepts clause next =
      s.ifAccepts clause fun t => next (change t) := by
  cases gate : s.gateError? clause with
  | none =>
    have still : (change s).gateError? clause = none := by rw [gateError?_congr (kept s), gate]
    rw [ifAccepts_eq_of_open gate, ifAccepts_eq_of_open still, ifAccepts_eq_of_open gate]
  | some e =>
    have still : (s.fail e).gateError? clause = some e := gate
    rw [ifAccepts_eq_fail gate, ifAccepts_eq_fail still, ifAccepts_eq_fail gate, fail_fail]

theorem ifAccepts_foldl {α : Type} {step : Statement → α → Statement}
    (kept : ∀ t, (change t).kind = t.kind) (each : ∀ t item, (step t item).kind = t.kind)
    (items : List α) :
    items.foldl (fun t item => t.ifAccepts clause fun t => step t item)
        (s.ifAccepts clause change) =
      s.ifAccepts clause fun t => items.foldl step (change t) := by
  induction items generalizing change with
  | nil => rfl
  | cons item rest ih =>
    rw [List.foldl_cons, ifAccepts_ifAccepts kept]
    exact ih fun t => (each (change t) item).trans (kept t)

theorem become_eq_of_kind (typed : s.kind = some kind) : s.become kind change = change s := by
  have accepted : s.verbError? kind = none := by
    rw [verbError?, typed]
    exact if_pos rfl
  have same : { s with kind := some kind } = s := by
    cases s
    cases typed
    rfl
  rw [become_eq_of_verbError? accepted, same]

/-- A verb that is given once may be given again. -/
theorem become_become (kept : ∀ t, (change t).kind = t.kind) :
    (s.become kind change).become kind next = s.become kind fun t => next (change t) := by
  cases conflict : s.verbError? kind with
  | none =>
    have typed : (change { s with kind := some kind }).kind = some kind := kept _
    rw [become_eq_of_verbError? conflict, become_eq_of_kind typed,
      become_eq_of_verbError? conflict]
  | some e =>
    have still : (s.fail e).verbError? kind = some e := conflict
    rw [become_eq_fail conflict, become_eq_fail still, become_eq_fail conflict, fail_fail]

end Gates

/-! ### Lists taken in two parts -/

section Parts

variable (s : Statement)

theorem extendSelectList_append (kept first later : List Operand) :
    (s.extendSelectList kept first).extendSelectList
        (s.extendSelectList kept first).selectList later =
      s.extendSelectList kept (first ++ later) := by
  simp only [extendSelectList, record, List.findSome?_append, List.filter_append, List.map_append,
    List.append_assoc, Option.or_assoc]

theorem extendValues_append (kept first later : List Operand) :
    (s.extendValues kept first).extendValues (kept ++ first.filter (!·.lacksVerb)) later =
      s.extendValues kept (first ++ later) := by
  simp only [extendValues, record, List.findSome?_append, List.filter_append, List.append_assoc,
    Option.or_assoc]

theorem foldl_addOrderTerms (terms : List (String × Direction)) :
    terms.foldl (fun t term => { t with orderTerms := t.orderTerms ++ [term] }) s =
      { s with orderTerms := s.orderTerms ++ terms } := by
  induction terms generalizing s with
  | nil =>
    cases s
    simp
  | cons term rest ih =>
    rw [List.foldl_cons, ih]
    simp

theorem restrictAll_cons (restriction : Restriction) (body : Operand) (rest : List Operand) :
    s.restrictAll restriction (body :: rest) =
      rest.foldl (fun t body => t.restrict restriction (.joinedBy .and) none body)
        (s.restrict restriction .replacing none body) := by
  have pushed (body : Operand) : ActsOn restriction.facet fun t =>
      t.pushCondition restriction .and none body := pushCondition_actsOn restriction .and none body
  have started := (pushed body).comp (clearConditions_actsOn restriction)
  exact (ifAccepts_foldl started.kind (fun t body => (pushed body).kind t) rest).symm

theorem orderBy_cons (term : String × Direction) (rest : List (String × Direction)) :
    s.orderBy (term :: rest) =
      rest.foldl (fun t term => t.addOrderBy [term]) (s.orderBy [term]) := by
  have gated : rest.foldl (fun t term => t.addOrderBy [term]) (s.orderBy [term]) =
      s.ifAccepts .ordering fun t =>
        rest.foldl (fun t term => { t with orderTerms := t.orderTerms ++ [term] })
          { t with orderTerms := [term] } := by
    refine ifAccepts_foldl ?_ ?_ rest
    · exact fun _ => rfl
    · exact fun _ _ => rfl
  simp only [gated, foldl_addOrderTerms]
  rfl

theorem values_cons (pair : String × Operand) (rest : List (String × Operand)) :
    s.values (pair :: rest) =
      rest.foldl (fun t pair => t.setColumn pair.1 pair.2) (s.setColumn pair.1 pair.2) := by
  have put (pair : String × Operand) := putValue_actsOn pair.1 pair.2
  exact (ifAccepts_foldl (put pair).kind (fun t pair => (put pair).kind t) rest).symm

theorem select_append (first later : List Operand) :
    s.select (first ++ later) = (s.select first).addSelect later := by
  have again : (s.select first).addSelect later = s.become .select fun t =>
      (t.extendSelectList [] first).extendSelectList (t.extendSelectList [] first).selectList
        later := become_become fun _ => rfl
  simp only [again, extendSelectList_append]
  rfl

theorem groupBy_append (first later : List String) :
    s.groupBy (first ++ later) = (s.groupBy first).addGroupBy later := by
  rw [groupBy, groupBy, addGroupBy, ifAccepts_ifAccepts]
  exact fun _ => rfl

theorem valuesList_append (first later : List Operand) :
    s.valuesList (first ++ later) = (s.valuesList first).valuesList later := by
  unfold valuesList
  rw [ifAccepts_ifAccepts fun t => by split <;> rfl]
  refine congrArg (s.ifAccepts .payload) (funext fun t => ?_)
  have refused {payload : Payload} (held : t.payload = some payload) :
      (t.fail .mixedValues).payload = some payload := held
  rcases held : t.payload with _ | kept | pairs | rows
  · exact (extendValues_append t [] first later).symm
  · exact (extendValues_append t kept first later).symm
  · simp only [refused held, fail_fail]
  · simp only [refused held, fail_fail]

end Parts

/-- A bulk call and the calls it stands for leave the same statement, with the same error, whatever
the statement was before and whichever operands are refused. -/
theorem apply_eq_run_of_spelledAs {c : Call} {calls : List Call} (spelled : c.SpelledAs calls)
    (s : Statement) : s.apply c = s.run calls := by
  cases spelled with
  | whereAll body rest =>
    rw [run_cons, run, List.foldl_map]
    exact s.restrictAll_cons .rows body rest
  | havingAll body rest =>
    rw [run_cons, run, List.foldl_map]
    exact s.restrictAll_cons .groups body rest
  | select first later => exact s.select_append first later
  | groupBy first later => exact s.groupBy_append first later
  | orderByAll term rest =>
    rw [run_cons, run, List.foldl_map]
    exact s.orderBy_cons term rest
  | values pair rest | set pair rest =>
    rw [run, List.foldl_map]
    exact s.values_cons pair rest
  | valuesList first later => exact s.valuesList_append first later

/-- The first condition is left out, the second one refused. -/
theorem apply_eq_run_of_spelledAs_refusedCondition :
    readsTable.apply (Method.whereAll [.sql "", .nested {}, .sql "a = 1"]) =
        readsTable.run [Method.where_ (.sql ""), Method.andWhere (.nested {}),
          Method.andWhere (.sql "a = 1")] ∧
      (readsTable.apply (Method.whereAll [.sql "", .nested {}, .sql "a = 1"])).firstError =
        some (.emptySubquery "WHERE") := by
  have spelled := Call.SpelledAs.whereAll (.sql "") [.nested {}, .sql "a = 1"]
  exact ⟨apply_eq_run_of_spelledAs spelled readsTable, rfl⟩

end Statement
end SqlBuilder
