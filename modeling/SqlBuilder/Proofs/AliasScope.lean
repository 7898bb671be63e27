import SqlBuilder.Proofs.AnyDepth
import SqlBuilder.Proofs.Facets
import SqlBuilder.Proofs.RenderedParts

/-!
# The scope of aliases

A statement is marked as derived exactly where it stands under its own name, and everywhere else its
alias means nothing. `Statement.pruned` takes the meaningless aliases away, at every depth, and two
statements that agree on the rest render alike (`Placed.render_eq_of_pruned_eq`). The alias that
belongs to FROM itself is only there for a source that is text.
-/
namespace SqlBuilder

mutual

/-- The statement with the aliases that are in scope: its own if its place derives statements, and
those in it by their places. -/
def Statement.pruned (derives : Bool) : Statement → Statement
  | ⟨kind, derived, aliasName, distinct, selectList, source, sourceAlias, joins, conditions,
      groupColumns, groupConditions, orderTerms, rowLimit, rowOffset, columnList, payload,
      unionMembers, ctes, recursive, firstError⟩ =>
    ⟨kind, derived, if derives then aliasName else none, distinct,
      Operand.prunedAll Place.selectList.derives selectList,
      Operand.prunedOptional Place.source.derives source, sourceAlias, Join.prunedAll joins,
      Condition.prunedAll Place.filter.derives conditions, groupColumns,
      Condition.prunedAll Place.groupFilter.derives groupConditions, orderTerms, rowLimit,
      rowOffset, columnList, Payload.prunedOptional payload, UnionMember.prunedAll unionMembers,
      Cte.prunedAll ctes, recursive, firstError⟩

def Operand.pruned (derives : Bool) : Operand → Operand
  | .sql text => .sql text
  | .nested statement => .nested (statement.pruned derives)

def Operand.prunedAll (derives : Bool) : List Operand → List Operand
  | [] => []
  | operand :: rest => operand.pruned derives :: Operand.prunedAll derives rest

def Operand.prunedOptional (derives : Bool) : Option Operand → Option Operand
  | none => none
  | some operand => some (operand.pruned derives)

def Join.prunedAll : List Join → List Join
  | [] => []
  | ⟨form, target, condition⟩ :: rest =>
      ⟨form, target.pruned Place.joinTarget.derives,
        Operand.prunedOptional Place.joinCondition.derives condition⟩ :: Join.prunedAll rest

def Condition.prunedAll (derives : Bool) : List Condition → List Condition
  | [] => []
  | ⟨connector, modifier, body⟩ :: rest =>
      ⟨connector, modifier, body.pruned derives⟩ :: Condition.prunedAll derives rest

def Payload.prunedOptional : Option Payload → Option Payload
  | none => none
  | some (.positional values) => some (.positional (Operand.prunedAll Place.value.derives values))
  | some (.named pairs) => some (.named (Payload.prunedPairs pairs))
  | some (.rows statement) => some (.rows (statement.pruned Place.insertedRows.derives))

def Payload.prunedPairs : List (String × Operand) → List (String × Operand)
  | [] => []
  | (column, value) :: rest =>
      (column, value.pruned Place.value.derives) :: Payload.prunedPairs rest

def UnionMember.prunedAll : List UnionMember → List UnionMember
  | [] => []
  | ⟨member, keepDuplicates⟩ :: rest =>
      ⟨member.pruned Place.unionMember.derives, keepDuplicates⟩ :: UnionMember.prunedAll rest

def Cte.prunedAll : List Cte → List Cte
  | [] => []
  | ⟨name, columns, body⟩ :: rest =>
      ⟨name, columns, body.pruned Place.cteBody.derives⟩ :: Cte.prunedAll rest

end

/-! ### Element by element -/

def Join.pruned (join : Join) : Join where
  form := join.form
  target := join.target.pruned Place.joinTarget.derives
  condition := join.condition.map (Operand.pruned Place.joinCondition.derives)

def Condition.pruned (derives : Bool) (condition : Condition) : Condition :=
  { condition with body := condition.body.pruned derives }

def Payload.pruned : Payload → Payload
  | .positional values => .positional (values.map (Operand.pruned Place.value.derives))
  | .named pairs =>
      .named (pairs.map fun pair => (pair.1, pair.2.pruned Place.value.derives))
  | .rows statement => .rows (statement.pruned Place.insertedRows.derives)

def UnionMember.pruned (member : UnionMember) : UnionMember :=
  { member with statement := member.statement.pruned Place.unionMember.derives }

def Cte.pruned (cte : Cte) : Cte := { cte with body := cte.body.pruned Place.cteBody.derives }

theorem Operand.prunedAll_eq_map (derives : Bool) (operands : List Operand) :
    Operand.prunedAll derives operands = operands.map (Operand.pruned derives) := by
  induction operands with
  | nil => rfl
  | cons operand rest ih => rw [Operand.prunedAll, ih, List.map_cons]

theorem Operand.prunedOptional_eq_map (derives : Bool) (operand : Option Operand) :
    Operand.prunedOptional derives operand = operand.map (Operand.pruned derives) := by
  cases operand <;> rfl

theorem Join.prunedAll_eq_map (joins : List Join) :
    Join.prunedAll joins = joins.map Join.pruned := by
  induction joins with
  | nil => rfl
  | cons join rest ih =>
    obtain ⟨form, target, condition⟩ := join
    rw [Join.prunedAll, ih, Operand.prunedOptional_eq_map, List.map_cons, Join.pruned]

theorem Condition.prunedAll_eq_map (derives : Bool) (conditions : List Condition) :
    Condition.prunedAll derives conditions = conditions.map (Condition.pruned derives) := by
  induction conditions with
  | nil => rfl
  | cons condition rest ih =>
    obtain ⟨connector, modifier, body⟩ := condition
    rw [Condition.prunedAll, ih, List.map_cons, Condition.pruned]

theorem Payload.prunedPairs_eq_map (pairs : List (String × Operand)) :
    Payload.prunedPairs pairs =
      pairs.map fun pair => (pair.1, pair.2.pruned Place.value.derives) := by
  induction pairs with
  | nil => rfl
  | cons pair rest ih => rw [Payload.prunedPairs, ih, List.map_cons]

theorem Payload.values_pruned (payload : Payload) :
    payload.pruned.values = payload.values.map (Operand.pruned Place.value.derives) := by
  cases payload <;> simp [Payload.pruned, Payload.values]

@[simp] theorem Payload.isEmpty_pruned (payload : Payload) :
    payload.pruned.isEmpty = payload.isEmpty := by
  cases payload <;> simp [Payload.pruned, Payload.isEmpty]

theorem Payload.prunedOptional_eq_map (payload : Option Payload) :
    Payload.prunedOptional payload = payload.map Payload.pruned := by
  rcases payload with _ | values | pairs | rows
  · rfl
  · rw [Payload.prunedOptional, Operand.prunedAll_eq_map]
    rfl
  · rw [Payload.prunedOptional, Payload.prunedPairs_eq_map]
    rfl
  · rfl

theorem UnionMember.prunedAll_eq_map (members : List UnionMember) :
    UnionMember.prunedAll members = members.map UnionMember.pruned := by
  induction members with
  | nil => rfl
  | cons member rest ih =>
    obtain ⟨statement, keepDuplicates⟩ := member
    rw [UnionMember.prunedAll, ih, List.map_cons, UnionMember.pruned]

theorem Cte.prunedAll_eq_map (ctes : List Cte) : Cte.prunedAll ctes = ctes.map Cte.pruned := by
  induction ctes with
  | nil => rfl
  | cons cte rest ih =>
    obtain ⟨name, columns, body⟩ := cte
    rw [Cte.prunedAll, ih, List.map_cons, Cte.pruned]

namespace Statement

variable {s t : Statement} {derives : Bool}

theorem pruned_eq (derives : Bool) (s : Statement) :
    s.pruned derives = { s with
      aliasName := if derives then s.aliasName else none
      selectList := s.selectList.map (Operand.pruned Place.selectList.derives)
      source := s.source.map (Operand.pruned Place.source.derives)
      joins := s.joins.map Join.pruned
      conditions := s.conditions.map (Condition.pruned Place.filter.derives)
      groupConditions := s.groupConditions.map (Condition.pruned Place.groupFilter.derives)
      payload := s.payload.map Payload.pruned
      unionMembers := s.unionMembers.map UnionMember.pruned
      ctes := s.ctes.map Cte.pruned } := by
  cases s
  simp only [Statement.pruned, Operand.prunedAll_eq_map, Operand.prunedOptional_eq_map,
    Join.prunedAll_eq_map, Condition.prunedAll_eq_map, Payload.prunedOptional_eq_map,
    UnionMember.prunedAll_eq_map, Cte.prunedAll_eq_map]

@[simp] theorem pruned_kind : (s.pruned derives).kind = s.kind := by rw [pruned_eq]

@[simp] theorem pruned_derived : (s.pruned derives).derived = s.derived := by rw [pruned_eq]

theorem pruned_payload : (s.pruned derives).payload = s.payload.map Payload.pruned := by
  rw [pruned_eq]

/-- Each place decides for the statements stored there. -/
theorem operandsAt_pruned (place : Place) :
    (s.pruned derives).operandsAt place =
      (s.operandsAt place).map (Operand.pruned place.derives) := by
  cases place with
  | value =>
    rw [operandsAt, operandsAt, pruned_payload]
    rcases s.payload with _ | payload
    · rfl
    · exact payload.values_pruned
  | insertedRows =>
    rw [operandsAt, operandsAt, pruned_payload]
    rcases s.payload with _ | values | pairs | rows <;> rfl
  | _ =>
    simp [pruned_eq, operandsAt, Option.toList_map, List.filterMap_map, List.map_filterMap,
      Function.comp_def, Join.pruned, Condition.pruned, UnionMember.pruned, Cte.pruned,
      Operand.pruned]

/-! ### What does not depend on aliases -/

theorem populated_pruned (clause : Clause) :
    clause.populated (s.pruned derives) = clause.populated s := by
  cases clause with
  | payload =>
    rw [Clause.populated, Clause.populated, pruned_payload, Option.any_map]
    simp only [Payload.isEmpty_pruned]
  | insertedRows =>
    rw [Clause.populated, Clause.populated, pruned_payload]
    rcases s.payload with _ | values | pairs | rows <;> rfl
  | _ => simp [pruned_eq, Clause.populated]

theorem strayClause?_pruned : (s.pruned derives).strayClause? = s.strayClause? := by
  have ctes : (s.pruned derives).ctes.isEmpty = s.ctes.isEmpty := by simp [pruned_eq]
  simp only [strayClause?, pruned_kind, ctes, populated_pruned]

theorem isEmpty_pruned : (s.pruned derives).isEmpty = s.isEmpty := by
  rw [isEmpty, strayClause?_pruned, pruned_eq, isEmpty, List.isEmpty_map]

theorem arrangesRows_pruned : (s.pruned derives).arrangesRows = s.arrangesRows := by
  rw [pruned_eq]
  rfl

theorem insertedText_pruned (parts : Parts) :
    (s.pruned derives).insertedText parts = s.insertedText parts := by
  have columnList : (s.pruned derives).columnList = s.columnList := by rw [pruned_eq]
  rw [insertedText, insertedText, pruned_payload, columnList]
  rcases s.payload with _ | values | pairs | rows <;> rcases s.columnList with _ | columns <;>
    simp [Payload.pruned, Function.comp_def]

theorem updatedColumns_pruned : (s.pruned derives).updatedColumns = s.updatedColumns := by
  rw [updatedColumns, updatedColumns, pruned_payload]
  rcases s.payload with _ | values | (_ | ⟨pair, pairs⟩) | rows <;>
    simp [Payload.pruned, Function.comp_def]

/-- The alias of a statement stands in its text if the statement is derived. -/
theorem text_pruned (p : Pagination) (parts : Parts) :
    (s.pruned s.derived).text p parts = s.text p parts := by
  have bare : (s.pruned s.derived).bareText p parts = s.bareText p parts := by
    simp only [bareText, insertText, updateText, verblessText, insertedText_pruned,
      updatedColumns_pruned, strayClause?_pruned]
    rw [pruned_eq]
    rfl
  rw [text, bare, pruned_eq, text]
  cases s.derived <;> rfl

end Statement

/-! ### Rendering -/

/-- Steps that give the same for elements with the same image do so for lists with the same
images. -/
theorem mapM_eq_of_map_eq {ε α β γ : Type} {f : α → Except ε β} {image : α → γ}
    {items items' : List α} (same : items'.map image = items.map image)
    (each : ∀ item ∈ items, ∀ item', image item' = image item → f item' = f item) :
    items'.mapM f = items.mapM f := by
  induction items generalizing items' with
  | nil => rw [List.map_eq_nil_iff.mp same]
  | cons item items ih =>
    obtain ⟨item', rest, rfl, first, later⟩ := List.map_eq_cons_iff.mp same
    obtain ⟨here, behind⟩ := List.forall_mem_cons.mp each
    rw [List.mapM_cons, List.mapM_cons, here item' first, ih later behind]

/-- Operands that agree up to aliases are the same text, or statements that agree up to aliases. -/
theorem Operand.eq_or_nested_of_pruned_eq {a b : Operand} {derives : Bool}
    (same : a.pruned derives = b.pruned derives) :
    a = b ∨ ∃ t s, a = .nested t ∧ b = .nested s ∧ t.pruned derives = s.pruned derives := by
  cases a with
  | sql text =>
    cases b with
    | sql other => exact .inl same
    | nested s => cases same
  | nested t =>
    cases b with
    | sql other => cases same
    | nested s => exact .inr ⟨t, s, rfl, rfl, Operand.nested.inj same⟩

theorem Operand.isEmpty_eq_of_pruned_eq {a b : Operand} {derives : Bool}
    (same : a.pruned derives = b.pruned derives) : a.isEmpty = b.isEmpty := by
  rcases Operand.eq_or_nested_of_pruned_eq same with rfl | ⟨t, s, rfl, rfl, agree⟩
  · rfl
  · rw [Operand.isEmpty, ← t.isEmpty_pruned, agree, s.isEmpty_pruned, Operand.isEmpty]

/-- A statement that agrees with one stored in this one, up to aliases, has the same text. -/
def Statement.StoresAlike (p : Pagination) (s : Statement) : Prop :=
  ∀ place u, .nested u ∈ s.operandsAt place →
    ∀ t : Statement, t.pruned place.derives = u.pruned place.derives → t.render p = u.render p

namespace Statement.StoresAlike

variable {p : Pagination} {s t : Statement} {place : Place}

theorem operand {a b : Operand} (alike : s.StoresAlike p) (stored : b ∈ s.operandsAt place)
    (same : a.pruned place.derives = b.pruned place.derives) : a.render p = b.render p := by
  rcases Operand.eq_or_nested_of_pruned_eq same with rfl | ⟨t, u, rfl, rfl, agree⟩
  · rfl
  · exact alike place u stored t agree

theorem value {a b : Operand} (alike : s.StoresAlike p) (stored : b ∈ s.operandsAt place)
    (same : a.pruned place.derives = b.pruned place.derives) :
    a.renderValue p = b.renderValue p := by
  rcases Operand.eq_or_nested_of_pruned_eq same with rfl | ⟨t, u, rfl, rfl, agree⟩
  · rfl
  · rw [Operand.renderValue, alike place u stored t agree, Operand.renderValue]

theorem joinCondition {a b : Option Operand} (alike : s.StoresAlike p)
    (stored : ∀ operand ∈ b, operand ∈ s.operandsAt .joinCondition)
    (same : a.map (Operand.pruned Place.joinCondition.derives) =
      b.map (Operand.pruned Place.joinCondition.derives)) :
    Operand.renderJoinCondition p a = Operand.renderJoinCondition p b := by
  cases b with
  | none => rw [Option.map_eq_none_iff.mp same]
  | some body =>
    obtain ⟨body', rfl, agree⟩ := Option.map_eq_some_iff.mp same
    rw [Operand.renderJoinCondition, Operand.renderJoinCondition,
      Operand.isEmpty_eq_of_pruned_eq agree, alike.value (stored body rfl) agree]

theorem join {a b : Join} (alike : s.StoresAlike p) (stored : b ∈ s.joins)
    (same : a.pruned = b.pruned) : a.render p = b.render p := by
  obtain ⟨form, target, condition⟩ := Join.mk.inj same
  have targetText : a.target.render p = b.target.render p :=
    alike.operand (mem_operandsAt_joinTarget stored) target
  have conditionText :
      Operand.renderJoinCondition p a.condition = Operand.renderJoinCondition p b.condition :=
    alike.joinCondition (mem_operandsAt_joinCondition stored) condition
  rw [Join.render, Join.render, form, targetText, conditionText]

theorem condition {a b : Condition} (alike : s.StoresAlike p)
    (stored : b.body ∈ s.operandsAt place)
    (same : a.pruned place.derives = b.pruned place.derives) : a.render p = b.render p := by
  obtain ⟨connector, modifier, body⟩ := Condition.mk.inj same
  rw [Condition.render, Condition.render, connector, modifier, alike.value stored body]

theorem unionMember {a b : UnionMember} (alike : s.StoresAlike p) (stored : b ∈ s.unionMembers)
    (same : a.pruned = b.pruned) : a.render p = b.render p := by
  obtain ⟨statement, keepDuplicates⟩ := UnionMember.mk.inj same
  have text : a.statement.render p = b.statement.render p :=
    alike .unionMember _ (mem_operandsAt_unionMember stored) _ statement
  have arranges : a.statement.arrangesRows = b.statement.arrangesRows := by
    rw [← arrangesRows_pruned, statement, arrangesRows_pruned]
  rw [UnionMember.render, UnionMember.render, text, arranges, keepDuplicates]

theorem cte {a b : Cte} (alike : s.StoresAlike p) (stored : b ∈ s.ctes)
    (same : a.pruned = b.pruned) : a.render p = b.render p := by
  obtain ⟨name, columns, body⟩ := Cte.mk.inj same
  have text : a.body.render p = b.body.render p :=
    alike .cteBody _ (mem_operandsAt_cteBody stored) _ body
  rw [Cte.render, Cte.render, name, columns, text]

theorem source (alike : s.StoresAlike p)
    (same : t.source.map (Operand.pruned Place.source.derives) =
      s.source.map (Operand.pruned Place.source.derives)) :
    t.source.mapM (Operand.render p) = s.source.mapM (Operand.render p) := by
  cases held : s.source with
  | none =>
    rw [held] at same
    rw [Option.map_eq_none_iff.mp same]
  | some source =>
    rw [held] at same
    obtain ⟨source', held', agree⟩ := Option.map_eq_some_iff.mp same
    rw [held', Option.mapM_some, Option.mapM_some,
      alike.operand (mem_operandsAt_source held) agree]

theorem rows (alike : s.StoresAlike p)
    (same : t.payload.map Payload.pruned = s.payload.map Payload.pruned) :
    Payload.renderRows p t.payload = Payload.renderRows p s.payload := by
  rcases held' : t.payload with _ | values' | pairs' | rows' <;>
    rcases held : s.payload with _ | values | pairs | rows <;> rw [held, held'] at same
  -- Payloads that agree are of one form, and only one of the forms stores rows.
  case some.rows.some.rows =>
    have agree := Payload.rows.inj (Option.some.inj same)
    exact alike .insertedRows rows (mem_operandsAt_insertedRows held) rows' agree
  all_goals first | rfl | cases same

/-- Statements that agree up to aliases have parts of the same texts. -/
theorem parts_eq {derives : Bool} (alike : s.StoresAlike p)
    (same : t.pruned derives = s.pruned derives) : t.parts p = s.parts p := by
  have values : (t.operandsAt .value).map (Operand.pruned Place.value.derives) =
      (s.operandsAt .value).map (Operand.pruned Place.value.derives) := by
    rw [← operandsAt_pruned, same, operandsAt_pruned]
  rw [pruned_eq, pruned_eq] at same
  simp only [Statement.mk.injEq] at same
  obtain ⟨-, -, -, -, selectList, source, -, joins, conditions, -, groupConditions, -, -, -, -,
    payload, unionMembers, ctes, -, -⟩ := same
  have filtered : ∀ condition ∈ s.conditions, condition.body ∈ s.operandsAt .filter :=
    fun _ stored => List.mem_map_of_mem stored
  have groupFiltered : ∀ condition ∈ s.groupConditions,
      condition.body ∈ s.operandsAt .groupFilter :=
    fun _ stored => List.mem_map_of_mem stored
  have selected : ∀ operand ∈ s.selectList, operand ∈ s.operandsAt .selectList :=
    fun _ stored => stored
  rw [parts, parts,
    mapM_eq_of_map_eq ctes fun _ stored _ => alike.cte stored,
    mapM_eq_of_map_eq selectList fun _ stored _ => alike.operand (selected _ stored),
    alike.source source,
    mapM_eq_of_map_eq joins fun _ stored _ => alike.join stored,
    mapM_eq_of_map_eq conditions fun _ stored _ => alike.condition (filtered _ stored),
    mapM_eq_of_map_eq groupConditions fun _ stored _ => alike.condition (groupFiltered _ stored),
    mapM_eq_of_map_eq values fun _ stored _ => alike.value stored,
    alike.rows payload,
    mapM_eq_of_map_eq unionMembers fun _ stored _ => alike.unionMember stored]

end Statement.StoresAlike

/-- Statements that agree up to aliases out of scope have the same text. -/
theorem Placed.render_eq_of_pruned_eq {p : Pagination} {s t : Statement} (placed : Placed s)
    (same : t.pruned s.derived = s.pruned s.derived) : t.render p = s.render p := by
  induction s using Statement.nesting_induction generalizing t with
  | step s ih =>
    -- Nothing is known of `t` but that it agrees with `s`: the marks are read off `s`.
    have alike : s.StoresAlike p := by
      intro place u stored t agree
      obtain ⟨inner, derived⟩ := placed.nested stored
      exact ih place u stored inner (derived ▸ agree)
    have derived : t.derived = s.derived := by
      rw [← Statement.pruned_derived, same, Statement.pruned_derived]
    rw [Statement.render_eq_text, Statement.render_eq_text, alike.parts_eq same,
      ← Statement.text_pruned, derived, same, Statement.text_pruned]

/-! ### The alias of FROM -/

namespace Statement

variable {s : Statement}

/-- FROM has an alias of its own only for a source that is text. -/
def NamesText (s : Statement) : Prop :=
  s.sourceAlias.isSome → ∃ text, s.source = some (.sql text)

theorem NamesText.ifAccepts {clause : Clause} {change : Statement → Statement}
    (before : s.NamesText) (changed : (change s).NamesText) :
    (s.ifAccepts clause change).NamesText :=
  ifAccepts_preserves (fun _ => before) changed

theorem NamesText.become {kind : Kind} {change : Statement → Statement} (before : s.NamesText)
    (changed : ∀ t : Statement, t.NamesText → (change t).NamesText) :
    (s.become kind change).NamesText :=
  become_preserves (fun _ => before) (changed _ before)

theorem NamesText.aimAt (before : s.NamesText) (kind : Kind) (table : String) :
    (s.aimAt kind table).NamesText := by
  refine before.become fun t named => ?_
  split
  · exact named
  · exact fun _ => ⟨table, rfl⟩

theorem NamesText.apply (before : s.NamesText) (c : Call) : (s.apply c).NamesText := by
  have elsewhere (clause : c.verb? = none) (other : Facet.source ≠ c.facet) :
      (s.apply c).NamesText := by
    have kept := (apply_actsOn clause).facet_eq_of_ne other s
    change ((s.apply c).facet .source).NamesText
    rw [kept]
    exact before
  cases c with
  | select items | addSelect items => exact before.become fun _ named => named
  | insertInto table => exact before.aimAt .insert table
  | updateTable table => exact before.aimAt .update table
  | deleteFrom table => exact before.aimAt .delete table
  | readFrom source =>
    apply before.ifAccepts
    dsimp only
    split
    · exact before
    · exact fun named => nomatch named
  | readFromAs source name =>
    apply before.ifAccepts
    cases source with
    | sql text => exact fun _ => ⟨text, rfl⟩
    | nested child =>
      dsimp only
      split <;> exact fun named => nomatch named
  | restrict restriction | restrictAll restriction =>
    exact elsewhere rfl (by cases restriction <;> nofun)
  | _ => exact elsewhere rfl (by nofun)

end Statement

theorem Reachable.namesText {s : Statement} (reachable : Reachable s) : s.NamesText := by
  induction reachable with
  | start => exact fun named => nomatch named
  | call c before given ih => exact ih.apply c

theorem Placed.namesText {s : Statement} (placed : Placed s) : s.NamesText := by
  cases placed with
  | mk reachable derived aliasName => exact reachable.namesText

/-- Statements are derived by their place, and FROM is only named where its source is text. So the
aliases of the statement itself and of those in places that derive nothing, at any depth, may be
replaced by others or by none, and every renderer gives the same. -/
theorem Reachable.alias_scoping {s : Statement} (reachable : Reachable s) :
    s.derived = false ∧
      (∀ (u t : Statement) (place : Place),
        u.Within s → .nested t ∈ u.operandsAt place → t.derived = place.derives) ∧
      (∀ u : Statement, u.Within s → u.sourceAlias.isSome → ∃ text, u.source = some (.sql text)) ∧
      ∀ t : Statement, t.pruned false = s.pruned false →
        ∀ r : Renderer, r.render t = r.render s := by
  have placed := reachable.placed
  have outer := reachable.derived_eq_false
  refine ⟨outer, ?_, ?_, ?_⟩
  · intro u t place inside stored
    exact ((placed.within inside).nested stored).2
  · intro u inside named
    exact (placed.within inside).namesText named
  · intro t agree r
    have kind : t.kind = s.kind := by
      rw [← Statement.pruned_kind, agree, Statement.pruned_kind]
    have text : t.render r.pagination = s.render r.pagination :=
      placed.render_eq_of_pruned_eq (outer.symm ▸ agree)
    rw [Renderer.render, Renderer.render, text, kind]

/-- A union that reads a derived table, with a name for each statement. -/
def namedUnion (root member : String) : Statement :=
  ({} : Statement).run [.select [.sql "a"],
    .readFrom (.nested (readsTable.apply (.aliasAs "d"))),
    .union true (readsTable.apply (.aliasAs member)), .aliasAs root]

theorem alias_scoping_namedUnion :
    Reachable (namedUnion "r" "m") ∧
      (namedUnion "r" "m").toSql =
        .ok "SELECT a FROM (SELECT a FROM x) AS d UNION ALL SELECT a FROM x" ∧
      namedUnion "s" "n" ≠ namedUnion "r" "m" ∧
      ∀ r : Renderer, r.render (namedUnion "s" "n") = r.render (namedUnion "r" "m") := by
  have named (name : String) : Reachable (readsTable.apply (.aliasAs name)) := by
    apply reachable_readsTable.call
    simp [Call.operandsAt]
  have reachable : Reachable (namedUnion "r" "m") := by
    apply Reachable.start.run_of_offers
    simp [named]
  refine ⟨reachable, ?_, ?_, reachable.alias_scoping.2.2.2 _ rfl⟩
  · decide +kernel
  · intro same
    exact absurd (congrArg Statement.aliasName same) (by decide)

end SqlBuilder
