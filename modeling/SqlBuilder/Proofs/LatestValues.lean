import Mathlib.Data.List.Nodup
import SqlBuilder.Proofs.AnyDepth
import SqlBuilder.Proofs.ClauseHistory
import SqlBuilder.Proofs.RenderedParts

/-!
# Values by column

Named values are a map that remembers the order in which its columns came: a column stands where it
was named first and has the value it was given last. `Latest` says so of all pairs that were given
and of those that are stored, and `Latest.assign` is the step for one pair; a run that writes pairs
takes it once for each of them. Calls that are refused store no column twice either
(`Statement.NamesOnce`), so no UPDATE sets one twice.
-/
namespace SqlBuilder

section Assignment

variable {α : Type} {key : String} {value : α} {given stored : List (String × α)}

theorem assign_ne_nil : assign key value stored ≠ [] := by
  cases stored with
  | nil => simp [assign]
  | cons pair rest =>
    rw [assign]
    split <;> simp

theorem nodup_ite_append {keys : List String} (once : keys.Nodup) :
    (if key ∈ keys then keys else keys ++ [key]).Nodup := by
  split
  · exact once
  next absent => exact List.nodup_append_comm.mpr (List.nodup_cons.mpr ⟨absent, once⟩)

theorem nodup_keys_assign (once : (stored.map (·.1)).Nodup) :
    ((assign key value stored).map (·.1)).Nodup := by
  rw [keys_assign]
  exact nodup_ite_append once

/-- No pair of the key is left but the new one. -/
theorem mem_assign (once : (stored.map (·.1)).Nodup) {pair : String × α}
    (member : pair ∈ assign key value stored) :
    pair = (key, value) ∨ pair ∈ stored ∧ pair.1 ≠ key := by
  induction stored with
  | nil => exact .inl (List.mem_singleton.mp member)
  | cons first rest ih =>
    obtain ⟨k, v⟩ := first
    obtain ⟨fresh, once⟩ := List.nodup_cons.mp once
    by_cases same : k = key
    · subst same
      rw [assign, if_pos rfl] at member
      rcases List.mem_cons.mp member with rfl | later
      · exact .inl rfl
      · have named : pair.1 ∈ rest.map (·.1) := List.mem_map_of_mem later
        exact .inr ⟨List.mem_cons_of_mem _ later, fun again => fresh (again ▸ named)⟩
    · rw [assign, if_neg same] at member
      rcases List.mem_cons.mp member with rfl | later
      · exact .inr ⟨List.mem_cons_self, same⟩
      · rcases ih once later with written | ⟨kept, other⟩
        · exact .inl written
        · exact .inr ⟨List.mem_cons_of_mem _ kept, other⟩

theorem eraseDups_append_singleton (keys : List String) :
    (keys ++ [key]).eraseDups =
      if key ∈ keys.eraseDups then keys.eraseDups else keys.eraseDups ++ [key] := by
  rw [List.eraseDups_append]
  simp only [List.mem_eraseDups]
  by_cases known : key ∈ keys <;> simp [List.removeAll, known, List.eraseDups_cons]

theorem nodup_eraseDups (keys : List String) : keys.eraseDups.Nodup := by
  induction keys using List.reverseRecOn with
  | nil => exact List.nodup_nil
  | append_singleton keys key ih =>
    rw [eraseDups_append_singleton]
    exact nodup_ite_append ih

/-- What is stored of the given pairs is each key once, where it was given first, with the value it
was given last. -/
structure Latest (given stored : List (String × α)) : Prop where
  keys : stored.map (·.1) = (given.map (·.1)).eraseDups
  values : ∀ pair ∈ stored, ∃ before after,
    given = before ++ pair :: after ∧ pair.1 ∉ after.map (·.1)

namespace Latest

theorem nil : Latest ([] : List (String × α)) [] := by
  refine ⟨rfl, fun pair member => ?_⟩
  cases member

theorem nodup_keys (latest : Latest given stored) : (stored.map (·.1)).Nodup :=
  latest.keys ▸ nodup_eraseDups _

theorem assign (latest : Latest given stored) (key : String) (value : α) :
    Latest (given ++ [(key, value)]) (assign key value stored) where
  keys := by
    rw [keys_assign, List.map_append, latest.keys]
    exact (eraseDups_append_singleton _).symm
  values pair member := by
    rcases mem_assign latest.nodup_keys member with rfl | ⟨kept, other⟩
    · exact ⟨given, [], rfl, List.not_mem_nil⟩
    · obtain ⟨before, after, rfl, last⟩ := latest.values pair kept
      refine ⟨before, after ++ [(key, value)], by simp, fun again => ?_⟩
      rw [List.map_append, List.mem_append] at again
      rcases again with sooner | now
      · exact last sooner
      · exact other (List.mem_singleton.mp now)

end Latest
end Assignment

/-- The payload holds what was given under names, or nothing if nothing was given. -/
inductive Payload.HoldsLatest : List (String × Operand) → Option Payload → Prop where
  | nothing : HoldsLatest [] none
  | pairs {given stored : List (String × Operand)} (some_given : given ≠ [])
      (latest : Latest given stored) : HoldsLatest given (some (.named stored))

/-- Named values have a column, and none of their columns stands in them twice. -/
def Statement.NamesOnce (s : Statement) : Prop :=
  ∀ pairs, s.payload = some (.named pairs) → pairs ≠ [] ∧ (pairs.map (·.1)).Nodup

/-- The pairs of values are only ever added. -/
def Ledger.pairs : Ledger (String × Operand) where
  facet := .payload
  restarts _ := false
  given
    | .values pairs => pairs
    | .setColumn column value => [(column, value)]
    | _ => []
  silent c other := by
    cases c <;> simp_all [Call.facet]

/-- Whether the values that the call writes, if any, have names. -/
def Call.namesValues : Call → Bool
  | .valuesList _ | .valuesFrom _ => false
  | _ => true

namespace Statement

variable {s t : Statement} {c : Call} {given : List (String × Operand)}

theorem holdsLatest_putValue {value : Operand} (typed : value.lacksVerb = false)
    (before : Payload.HoldsLatest given s.payload) (column : String) :
    Payload.HoldsLatest (given ++ [(column, value)]) (s.putValue column value).payload := by
  have filled : given ++ [(column, value)] ≠ [] := by simp
  rw [putValue, typed, payload_record]
  generalize s.payload = payload at before ⊢
  cases before with
  | nothing => exact .pairs filled (Latest.nil.assign column value)
  | pairs _ latest => exact .pairs filled (latest.assign column value)

theorem holdsLatest_putValues {pairs : List (String × Operand)}
    (typed : ∀ pair ∈ pairs, pair.2.lacksVerb = false)
    (before : Payload.HoldsLatest given s.payload) :
    Payload.HoldsLatest (given ++ pairs)
      (pairs.foldl (fun s pair => s.putValue pair.1 pair.2) s).payload := by
  induction pairs generalizing s given with
  | nil => simpa using before
  | cons pair rest ih =>
    have first := holdsLatest_putValue (typed pair List.mem_cons_self) before pair.1
    have later := ih (fun p member => typed p (List.mem_cons_of_mem pair member)) first
    rwa [List.append_assoc] at later

theorem holdsLatest_apply (family : c.facet = .payload) (named : c.namesValues = true)
    (clean : c.error? s = none) (before : Payload.HoldsLatest given s.payload) :
    Payload.HoldsLatest (Ledger.pairs.next given c) (s.apply c).payload := by
  have opened {gate : Clause} := @Call.gateError?_of_error? s c gate clean
  have typed {value : Operand} (offered : (Place.value, value) ∈ c.offers) :
      value.lacksVerb = false := Call.lacksVerb_of_error? clean offered (by simp)
  cases c with
  | values pairs =>
    rw [apply, values, ifAccepts_eq_of_open (opened rfl)]
    exact holdsLatest_putValues
      (fun pair member => typed (List.mem_map_of_mem member)) before
  | setColumn column value =>
    rw [apply, setColumn, ifAccepts_eq_of_open (opened rfl)]
    exact holdsLatest_putValue (typed List.mem_cons_self) before column
  | valuesList | valuesFrom => cases named
  | restrict restriction | restrictAll restriction => cases restriction <;> cases family
  | _ => cases family

theorem NamesOnce.of_payload (before : s.NamesOnce) (kept : t.payload = s.payload) :
    t.NamesOnce := by
  rwa [NamesOnce, kept]

theorem namesOnce_of_isNamed_eq_false {payload : Payload} (held : s.payload = some payload)
    (unnamed : payload.isNamed = false) : s.NamesOnce := by
  intro pairs named
  rw [held] at named
  cases named
  cases unnamed

theorem namesOnce_putValue {column : String} {value : Operand} (before : s.NamesOnce) :
    (s.putValue column value).NamesOnce := by
  unfold putValue
  dsimp only
  split
  · exact before
  split
  · rintro pairs ⟨⟩
    exact ⟨List.cons_ne_nil _ _, List.nodup_singleton column⟩
  next stored held =>
    rintro pairs ⟨⟩
    exact ⟨assign_ne_nil, nodup_keys_assign (before stored held).2⟩
  · exact before

theorem namesOnce_apply (before : s.NamesOnce) (c : Call) : (s.apply c).NamesOnce := by
  have refused (e : Error) : (s.fail e).NamesOnce := before
  by_cases family : .payload = c.facet
  · cases c with
    | values pairs =>
      refine ifAccepts_preserves refused ?_
      exact List.foldlRecOn pairs _ before fun _ held _ _ => namesOnce_putValue held
    | setColumn column value => exact ifAccepts_preserves refused (namesOnce_putValue before)
    | valuesList added =>
      refine ifAccepts_preserves refused ?_
      split
      · exact namesOnce_of_isNamed_eq_false rfl rfl
      · exact namesOnce_of_isNamed_eq_false rfl rfl
      · exact before
    | valuesFrom child =>
      refine ifAccepts_preserves refused ?_
      split
      · exact before
      · split
        · exact before
        · exact namesOnce_of_isNamed_eq_false rfl rfl
      · exact before
    | restrict restriction | restrictAll restriction => cases restriction <;> cases family
    | _ => cases family
  · exact before.of_payload (apply_frame (fun _ => rfl) (fun _ _ => rfl) family (by decide) s)

end Statement

theorem Reachable.namesOnce {s : Statement} (reachable : Reachable s) : s.NamesOnce := by
  induction reachable with
  | start =>
    rintro pairs ⟨⟩
  | call c _ _ ih => exact Statement.namesOnce_apply ih c

theorem Placed.namesOnce {s : Statement} (placed : Placed s) : s.NamesOnce := by
  cases placed with
  | mk reachable => exact reachable.namesOnce

namespace Statement

variable {s t : Statement}

/-- The text of an UPDATE that sets the columns to the values, as it stands where it is nested. -/
def settingText (s : Statement) (columns values : List String) (ctes : List String) (table : String)
    (conditions : List String) : String :=
  let text := Layout.spaced [s.withText ctes, "UPDATE " ++ table,
    "SET " ++ Layout.commaList
      (List.zipWith (fun column value => column ++ "=" ++ value) columns values),
    Layout.clause "WHERE" " " conditions]
  if s.derived then Layout.derived s.aliasName text else text

/-- An UPDATE sets the columns of its pairs, in their order. -/
theorem exists_settingText_of_render {p : Pagination} {sql : String}
    (updates : s.kind = some .update) (rendered : s.render p = .ok sql) :
    ∃ pairs values ctes table conditions, s.payload = some (.named pairs) ∧
      List.Forall₂ (fun pair value => pair.2.renderValue p = .ok value) pairs values ∧
      sql = s.settingText (pairs.map (·.1)) values ctes table conditions := by
  have clean := firstError_of_render rendered
  simp only [render_eq_text, text, clean, bareText, updates, updateText, bind_eq_ok_iff,
    pure_eq_ok_iff] at rendered
  obtain ⟨_, ⟨columns, named, ctes, -, table, -, values, given, conditions, -, rfl⟩, rfl⟩ :=
    rendered
  obtain ⟨pairs, held, -, rfl⟩ := updatedColumns_eq_ok_iff.mp named
  rw [parts, operandsAt, held] at given
  have each := forall₂_of_mapM_eq_ok given fun _ _ _ rendered => rendered
  exact ⟨pairs, values, ctes, table, conditions, held, List.forall₂_map_left_iff.mp each, rfl⟩

end Statement

open Statement in
/-- After a run without errors that names all values it writes, the payload holds of each column the
value that came last, the columns in the order in which they came first, and there is no payload if
no value was written. In every reachable statement, and in those stored in it, named values are not
empty and name no column twice, whatever was refused; so an UPDATE sets no column twice. -/
theorem namedValues_latest_once :
    (∀ calls : List Call, (({} : Statement).run calls).firstError = none →
      (∀ c ∈ calls, c.namesValues = true) →
      Payload.HoldsLatest (calls.flatMap Ledger.pairs.given) (({} : Statement).run calls).payload) ∧
    ∀ s t : Statement, Reachable s → t.Within s →
      t.NamesOnce ∧
      (t.kind = some .update → ∀ (p : Pagination) (sql : String), t.render p = .ok sql →
        ∃ pairs values ctes table conditions, t.payload = some (.named pairs) ∧
          (pairs.map (·.1)).Nodup ∧
          List.Forall₂ (fun pair value => pair.2.renderValue p = .ok value) pairs values ∧
          sql = t.settingText (pairs.map (·.1)) values ctes table conditions) := by
  constructor
  · intro calls clean named
    rw [← Ledger.entries_of_never (fun _ => rfl) calls]
    refine @Ledger.run _ _ Ledger.pairs calls payload
      (fun held given => Payload.HoldsLatest given held)
      (fun _ => rfl) (fun _ _ => rfl) (by decide) .nothing ?_ clean
    exact fun c member family s sound given => holdsLatest_apply family (named c member) sound
  · intro s t reachable inside
    have once := (reachable.placed.within inside).namesOnce
    refine ⟨once, fun updates p sql rendered => ?_⟩
    obtain ⟨pairs, values, ctes, table, conditions, held, inOrder, rfl⟩ :=
      exists_settingText_of_render updates rendered
    exact ⟨pairs, values, ctes, table, conditions, held, (once pairs held).2, inOrder, rfl⟩

/-- Values that come again under other calls. -/
def repeatedValues : List Call :=
  [.values [("a", .sql "1"), ("b", .sql "2")], .updateTable "t", .setColumn "c" (.sql "3"),
    .values [("b", .sql "4"), ("a", .sql "5")], .values []]

/-- An UPDATE with values that come again, as the body of a common table expression. -/
def readsRepeatedValues : Statement :=
  ({} : Statement).run [.withCte "n" none false (({} : Statement).run repeatedValues),
    .select [.sql "a"], .readFrom (.sql "n")]

theorem namedValues_latest_once_repeatedValues :
    (({} : Statement).run repeatedValues).payload =
        some (.named [("a", .sql "5"), ("b", .sql "4"), ("c", .sql "3")]) ∧
      Payload.HoldsLatest
        [("a", .sql "1"), ("b", .sql "2"), ("c", .sql "3"), ("b", .sql "4"), ("a", .sql "5")]
        (some (.named [("a", .sql "5"), ("b", .sql "4"), ("c", .sql "3")])) ∧
      Reachable readsRepeatedValues ∧
      (({} : Statement).run repeatedValues).Within readsRepeatedValues ∧
      ∃ pairs values ctes table conditions,
        (({} : Statement).run repeatedValues).payload = some (.named pairs) ∧
        (pairs.map (·.1)).Nodup ∧
        List.Forall₂ (fun pair value => pair.2.renderValue .limitOffset = .ok value) pairs values ∧
        "UPDATE t SET a=5,b=4,c=3" = (({} : Statement).run repeatedValues).settingText
          (pairs.map (·.1)) values ctes table conditions := by
  obtain ⟨latest, nested⟩ := namedValues_latest_once
  have inner : Reachable (({} : Statement).run repeatedValues) := by
    apply Reachable.start.run_of_offers
    simp [repeatedValues, or_imp, forall_and]
  have outer : Reachable readsRepeatedValues := by
    apply Reachable.start.run_of_offers
    simp [inner]
  have stored : .nested (({} : Statement).run repeatedValues) ∈
      readsRepeatedValues.operandsAt .cteBody := List.mem_cons_self
  have inside : (({} : Statement).run repeatedValues).Within readsRepeatedValues :=
    .nested stored (.self _)
  have once := (nested readsRepeatedValues _ outer inside).2 rfl .limitOffset _ rfl
  exact ⟨rfl, latest repeatedValues rfl (by decide), outer, inside, once⟩

end SqlBuilder
