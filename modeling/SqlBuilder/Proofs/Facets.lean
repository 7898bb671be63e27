import SqlBuilder.Proofs.RecordedErrors

/-!
# Facets of a statement

The fields of a statement fall into facets, one for each family of calls. A call without a verb does
to a statement what it does to its facet alone: it reads nothing else but the kind, and it writes
nothing else but the error. `Statement.ActsOn` says so in one equation, `Statement.apply_actsOn` is
the one case analysis over the calls and `Statement.run_actsOn` the same for runs within one family.
-/
namespace SqlBuilder

/-- The families of fields that calls read and write together. -/
inductive Facet where
  /-- What a verb brings with it, and the mark of a derived statement. -/
  | head
  | aliasName | distinct | source | joins | filter | groupFilter | grouping | ordering | paging
  | columnList | payload | unions | ctes
  deriving DecidableEq, Repr

def Restriction.facet : Restriction → Facet
  | rows => .filter
  | groups => .groupFilter

/-- The family of a call. -/
def Call.facet : Call → Facet
  | .select _ | .addSelect _ | .insertInto _ | .updateTable _ | .deleteFrom _ => .head
  | .aliasAs _ => .aliasName
  | .selectDistinct _ => .distinct
  | .readFrom _ | .readFromAs _ _ => .source
  | .join _ _ _ => .joins
  | .restrict restriction _ _ _ | .restrictAll restriction _ => restriction.facet
  | .restrictByExistence _ _ _ => .filter
  | .groupBy _ | .addGroupBy _ => .grouping
  | .orderBy _ | .addOrderBy _ => .ordering
  | .limit _ | .offset _ | .paginate _ _ => .paging
  | .columns _ => .columnList
  | .values _ | .setColumn _ _ | .valuesList _ | .valuesFrom _ => .payload
  | .union _ _ => .unions
  | .withCte _ _ _ _ => .ctes

namespace Statement

/-- The statement as built, its first error left aside. -/
def withoutError (s : Statement) : Statement := { s with firstError := none }

/-- The fields of one facet, on a statement of the same kind that has no others. -/
def facet (s : Statement) : Facet → Statement
  | .head => { kind := s.kind, derived := s.derived, selectList := s.selectList }
  | .aliasName => { kind := s.kind, aliasName := s.aliasName }
  | .distinct => { kind := s.kind, distinct := s.distinct }
  | .source => { kind := s.kind, source := s.source, sourceAlias := s.sourceAlias }
  | .joins => { kind := s.kind, joins := s.joins }
  | .filter => { kind := s.kind, conditions := s.conditions }
  | .groupFilter => { kind := s.kind, groupConditions := s.groupConditions }
  | .grouping => { kind := s.kind, groupColumns := s.groupColumns }
  | .ordering => { kind := s.kind, orderTerms := s.orderTerms }
  | .paging => { kind := s.kind, rowLimit := s.rowLimit, rowOffset := s.rowOffset }
  | .columnList => { kind := s.kind, columnList := s.columnList }
  | .payload => { kind := s.kind, payload := s.payload }
  | .unions => { kind := s.kind, unionMembers := s.unionMembers }
  | .ctes => { kind := s.kind, ctes := s.ctes, recursive := s.recursive }

/-- Takes over one facet of another statement, and its error if there is none yet. The kind
stays. -/
def put (s : Statement) (facet : Facet) (t : Statement) : Statement :=
  let s := s.record t.firstError
  match facet with
  | .head => { s with derived := t.derived, selectList := t.selectList }
  | .aliasName => { s with aliasName := t.aliasName }
  | .distinct => { s with distinct := t.distinct }
  | .source => { s with source := t.source, sourceAlias := t.sourceAlias }
  | .joins => { s with joins := t.joins }
  | .filter => { s with conditions := t.conditions }
  | .groupFilter => { s with groupConditions := t.groupConditions }
  | .grouping => { s with groupColumns := t.groupColumns }
  | .ordering => { s with orderTerms := t.orderTerms }
  | .paging => { s with rowLimit := t.rowLimit, rowOffset := t.rowOffset }
  | .columnList => { s with columnList := t.columnList }
  | .payload => { s with payload := t.payload }
  | .unions => { s with unionMembers := t.unionMembers }
  | .ctes => { s with ctes := t.ctes, recursive := t.recursive }

section Facets

variable (s t u : Statement) (facet other : Facet)

@[simp] theorem facet_kind : (s.facet facet).kind = s.kind := by cases facet <;> rfl

@[simp] theorem facet_firstError : (s.facet facet).firstError = none := by cases facet <;> rfl

@[simp] theorem facet_facet : (s.facet facet).facet facet = s.facet facet := by cases facet <;> rfl

@[simp] theorem facet_record (error? : Option Error) :
    (s.record error?).facet facet = s.facet facet := by
  cases facet <;> rfl

@[simp] theorem facet_withoutError : s.withoutError.facet facet = s.facet facet := by
  cases facet <;> rfl

@[simp] theorem put_kind : (s.put facet t).kind = s.kind := by cases facet <;> rfl

@[simp] theorem put_firstError :
    (s.put facet t).firstError = s.firstError.or t.firstError := by
  cases facet <;> rfl

theorem put_facet_record (error? : Option Error) :
    s.put facet ((s.facet facet).record error?) = s.record error? := by
  cases facet <;> rfl

theorem put_facet : s.put facet (s.facet facet) = s := by
  have unchanged := put_facet_record s facet none
  rwa [record_none, record_none] at unchanged

theorem put_put : (s.put facet t).put facet u = s.put facet (t.put facet u) := by
  cases facet <;> simp only [put, record, Option.or_assoc]

theorem withoutError_put :
    (s.put facet t).withoutError = (s.withoutError.put facet t).withoutError := by
  cases facet <;> rfl

variable {s t facet other}

theorem facet_put (kind : t.kind = s.kind) : (s.put facet t).facet facet = t.facet facet := by
  cases facet <;> simp only [Statement.facet, put, record, kind]

theorem facet_put_of_ne (different : other ≠ facet) :
    (s.put facet t).facet other = s.facet other := by
  cases facet <;> cases other <;> first | rfl | exact absurd rfl different

/-- The facets make up the statement. -/
theorem withoutError_eq_iff :
    s.withoutError = t.withoutError ↔ ∀ facet, s.facet facet = t.facet facet := by
  constructor
  · intro same facet
    rw [← s.facet_withoutError, same, t.facet_withoutError]
  · intro same
    cases s
    cases t
    have head := same .head
    have aliasName := same .aliasName
    have distinct := same .distinct
    have source := same .source
    have joins := same .joins
    have filter := same .filter
    have groupFilter := same .groupFilter
    have grouping := same .grouping
    have ordering := same .ordering
    have paging := same .paging
    have columnList := same .columnList
    have payload := same .payload
    have unions := same .unions
    have ctes := same .ctes
    simp_all [Statement.facet, withoutError]

end Facets

/-- The change does to a statement what it does to one facet of it. -/
def ActsOn (facet : Facet) (change : Statement → Statement) : Prop :=
  ∀ s, change s = s.put facet (change (s.facet facet))

variable {facet : Facet} {change first second : Statement → Statement}

namespace ActsOn

theorem kind (acts : ActsOn facet change) (s : Statement) : (change s).kind = s.kind := by
  rw [acts s, put_kind]

theorem firstError (acts : ActsOn facet change) (s : Statement) :
    (change s).firstError = s.firstError.or (change (s.facet facet)).firstError := by
  rw [acts s, put_firstError]

theorem facet_eq (acts : ActsOn facet change) (s : Statement) :
    (change s).facet facet = (change (s.facet facet)).facet facet := by
  rw [acts s, facet_put]
  rw [acts.kind, facet_kind]

theorem facet_eq_of_ne (acts : ActsOn facet change) {other : Facet} (different : other ≠ facet)
    (s : Statement) : (change s).facet other = s.facet other := by
  rw [acts s, facet_put_of_ne different]

theorem id : ActsOn facet fun s => s := fun s => (put_facet s facet).symm

theorem record (error? : Option Error) : ActsOn facet fun s => s.record error? :=
  fun s => (put_facet_record s facet error?).symm

theorem comp (later : ActsOn facet second) (earlier : ActsOn facet first) :
    ActsOn facet fun s => second (first s) := by
  intro s
  have kind : (first (s.facet facet)).kind = s.kind := by rw [earlier.kind, facet_kind]
  dsimp only
  rw [earlier s, later, put_put, facet_put kind, ← later]

theorem foldl {α : Type} {step : Statement → α → Statement} {items : List α}
    (each : ∀ item ∈ items, ActsOn facet fun s => step s item) :
    ActsOn facet fun s => items.foldl step s := by
  induction items with
  | nil => exact id
  | cons item rest ih =>
    obtain ⟨first, later⟩ := List.forall_mem_cons.mp each
    exact (ih later).comp first

/-- A change that goes by something the facet holds. -/
theorem byCases {α : Type} (test : Statement → α) (held : ∀ s, test (s.facet facet) = test s)
    (each : ∀ a, ∃ branch, ActsOn facet branch ∧ ∀ s, test s = a → change s = branch s) :
    ActsOn facet change := by
  intro s
  obtain ⟨branch, acts, taken⟩ := each (test s)
  rw [taken s rfl, taken _ (held s), ← acts s]

theorem ifAccepts {clause : Clause} (acts : ActsOn facet change) :
    ActsOn facet fun s => s.ifAccepts clause change := by
  refine .byCases Statement.kind (fun s => s.facet_kind facet) fun kind? => ?_
  rcases kind? with _ | kind
  · exact ⟨change, acts, fun s same => by rw [Statement.ifAccepts, same]⟩
  · by_cases accepts : clause.accepts kind = true
    · exact ⟨change, acts, fun s same => by simp only [Statement.ifAccepts, same, if_pos accepts]⟩
    · exact ⟨_, record _, fun s same => by
        simp only [Statement.ifAccepts, same, if_neg accepts]; rfl⟩

end ActsOn

theorem readFrom_actsOn (source : Operand) : ActsOn .source fun s => s.readFrom source := by
  apply ActsOn.ifAccepts
  have written : ActsOn .source fun s =>
      { s with source := some source.embedded, sourceAlias := none } :=
    fun s => by simp [put, Statement.facet]
  dsimp only
  split
  · exact .record _
  · exact written.comp (.record _)

theorem readFromAs_actsOn (source : Operand) (name : String) :
    ActsOn .source fun s => s.readFromAs source name := by
  apply ActsOn.ifAccepts
  have unnamed : ActsOn .source fun s => { s with sourceAlias := none } :=
    fun s => by simp [put, Statement.facet]
  cases source with
  | sql text =>
    intro s
    simp [put, Statement.facet]
  | nested child =>
    have written : ActsOn .source fun s => { s with
        source := some (.nested { child with derived := true, aliasName := some name }) } :=
      fun s => by simp [put, Statement.facet]
    dsimp only
    split
    · exact unnamed.comp (.record _)
    · exact written.comp (unnamed.comp (.record _))

theorem join_actsOn (form : JoinForm) (target : Operand) (condition : Option Operand) :
    ActsOn .joins fun s => s.join form target condition := by
  apply ActsOn.ifAccepts
  have added : ActsOn .joins fun s =>
      { s with joins := s.joins ++ [⟨form, target.embedded, condition⟩] } :=
    fun s => by simp [put, Statement.facet]
  dsimp only
  split
  · exact .record _
  · split
    · exact (ActsOn.record _).comp ((ActsOn.record _).comp (.record _))
    · exact added.comp ((ActsOn.record _).comp (.record _))

theorem union_actsOn (keepDuplicates : Bool) (member : Statement) :
    ActsOn .unions fun s => s.union keepDuplicates member := by
  apply ActsOn.ifAccepts
  have added : ActsOn .unions fun s =>
      { s with unionMembers := s.unionMembers ++ [⟨member, keepDuplicates⟩] } :=
    fun s => by simp [put, Statement.facet]
  split
  · exact .record _
  · exact added.comp (.record _)
  · exact .record _

theorem withCte_actsOn (name : String) (columns : Option (List String)) (recursive : Bool)
    (body : Statement) : ActsOn .ctes fun s => s.withCte name columns recursive body := by
  have registered : ActsOn .ctes fun s => { s with
      ctes := s.ctes ++ [⟨name, columns, body⟩]
      recursive := s.recursive || recursive } :=
    fun s => by simp [put, Statement.facet]
  unfold withCte
  split
  · exact .record _
  refine .byCases (fun s => s.cteNames.contains name) (fun _ => rfl) fun taken => ?_
  cases taken with
  | true => exact ⟨_, .record _, fun s same => if_pos same⟩
  | false =>
    simp only [Bool.eq_false_iff]
    by_cases untyped : body.kind.isNone = true
    · exact ⟨_, .record _, fun s same => (if_neg same).trans (if_pos untyped)⟩
    · exact ⟨_, registered.comp (.record _), fun s same => (if_neg same).trans (if_neg untyped)⟩

theorem clearConditions_actsOn (restriction : Restriction) :
    ActsOn restriction.facet fun s => s.setConditionsOn restriction [] := by
  intro s
  cases restriction <;> simp [put, Statement.facet, Restriction.facet, setConditionsOn]

theorem pushCondition_actsOn (restriction : Restriction) (connector : Connector)
    (modifier : Option Modifier) (body : Operand) :
    ActsOn restriction.facet fun s => s.pushCondition restriction connector modifier body := by
  have pushed : ActsOn restriction.facet fun s => s.setConditionsOn restriction
      ((s.conditionsOn restriction).push connector modifier body) := by
    intro s
    cases restriction <;>
      simp [put, Statement.facet, Restriction.facet, setConditionsOn, conditionsOn]
  unfold pushCondition
  split
  · split
    · exact .id
    · exact .record _
  · exact (ActsOn.record _).comp pushed

theorem restrict_actsOn (restriction : Restriction) (placement : Placement)
    (modifier : Option Modifier) (body : Operand) :
    ActsOn restriction.facet fun s => s.restrict restriction placement modifier body := by
  apply ActsOn.ifAccepts
  have pushed := pushCondition_actsOn restriction placement.connector modifier body
  cases placement with
  | replacing => exact pushed.comp (clearConditions_actsOn restriction)
  | joinedBy connector => exact pushed

theorem restrictAll_actsOn (restriction : Restriction) (bodies : List Operand) :
    ActsOn restriction.facet fun s => s.restrictAll restriction bodies := by
  apply ActsOn.ifAccepts
  have pushed : ActsOn restriction.facet fun s =>
      bodies.foldl (fun s body => s.pushCondition restriction .and none body) s :=
    .foldl fun body _ => pushCondition_actsOn restriction .and none body
  exact pushed.comp (clearConditions_actsOn restriction)

theorem restrictByExistence_actsOn (placement : Placement) (negated : Bool) (child : Statement) :
    ActsOn .filter fun s => s.restrictByExistence placement negated child := by
  unfold restrictByExistence
  split
  · exact .ifAccepts (.record _)
  · exact restrict_actsOn .rows placement _ (.nested child)

theorem setPayload_actsOn (payload : Option Payload) :
    ActsOn .payload fun s => { s with payload := payload } :=
  fun s => by simp [put, Statement.facet]

theorem putValue_actsOn (column : String) (value : Operand) :
    ActsOn .payload fun s => s.putValue column value := by
  unfold putValue
  dsimp only
  split
  · exact .record _
  refine .byCases payload (fun _ => rfl) fun held => ?_
  rcases held with _ | values | pairs | rows
  · exact ⟨_, (setPayload_actsOn _).comp (.record _), fun s same => by rw [payload_record, same]⟩
  · exact ⟨_, (ActsOn.record _).comp (.record _),
      fun s same => by rw [payload_record, same]; rfl⟩
  · exact ⟨_, (setPayload_actsOn _).comp (.record _), fun s same => by rw [payload_record, same]⟩
  · exact ⟨_, (ActsOn.record _).comp (.record _),
      fun s same => by rw [payload_record, same]; rfl⟩

theorem valuesList_actsOn (added : List Operand) :
    ActsOn .payload fun s => s.valuesList added := by
  have extended (kept : List Operand) : ActsOn .payload fun s => s.extendValues kept added :=
    (setPayload_actsOn _).comp (.record _)
  apply ActsOn.ifAccepts
  refine .byCases payload (fun _ => rfl) fun held => ?_
  rcases held with _ | values | pairs | rows
  · exact ⟨_, extended [], fun s same => by rw [same]⟩
  · exact ⟨_, extended values, fun s same => by rw [same]⟩
  · exact ⟨_, .record _, fun s same => by rw [same]; rfl⟩
  · exact ⟨_, .record _, fun s same => by rw [same]; rfl⟩

theorem valuesFrom_actsOn (child : Statement) : ActsOn .payload fun s => s.valuesFrom child := by
  apply ActsOn.ifAccepts
  split
  · exact .record _
  · refine .byCases (fun s => s.payload.any (!·.isEmpty)) (fun _ => rfl) fun filled => ?_
    cases filled with
    | true => exact ⟨_, .record _, fun s same => if_pos same⟩
    | false =>
      exact ⟨_, (setPayload_actsOn _).comp (.record _),
        fun s same => if_neg (Bool.eq_false_iff.mp same)⟩
  · exact .record _

/-- Every call without a verb acts on the facet of its family. -/
theorem apply_actsOn {c : Call} (clause : c.verb? = none) : ActsOn c.facet fun s => s.apply c := by
  cases c with
  | select | addSelect | insertInto | updateTable | deleteFrom => cases clause
  | selectDistinct flag =>
    have written (flag : Bool) : ActsOn .distinct fun s => { s with distinct := flag } :=
      fun s => by simp [put, Statement.facet]
    cases flag with
    | true => exact .ifAccepts (written true)
    | false => exact written false
  | readFrom source => exact readFrom_actsOn source
  | readFromAs source name => exact readFromAs_actsOn source name
  | join form target condition => exact join_actsOn form target condition
  | union keepDuplicates member => exact union_actsOn keepDuplicates member
  | withCte name columns recursive body => exact withCte_actsOn name columns recursive body
  | restrict restriction placement negated body =>
    exact restrict_actsOn restriction placement _ body
  | restrictAll restriction bodies => exact restrictAll_actsOn restriction bodies
  | restrictByExistence placement negated child =>
    exact restrictByExistence_actsOn placement negated child
  | values pairs => exact .ifAccepts (.foldl fun pair _ => putValue_actsOn pair.1 pair.2)
  | setColumn column value => exact .ifAccepts (putValue_actsOn column value)
  | valuesList added => exact valuesList_actsOn added
  | valuesFrom child => exact valuesFrom_actsOn child
  | aliasAs name =>
    intro s
    simp [put, Statement.facet, Call.facet, apply, aliasAs]
  | groupBy | addGroupBy | orderBy | addOrderBy | limit | offset | paginate | columns =>
    apply ActsOn.ifAccepts
    intro s
    simp [put, Statement.facet, Call.facet]

/-- Calls of other families leave what a facet holds, its kind apart. A verb also sets the table, so
FROM is not among these facets. -/
theorem apply_frame {α : Type} {field : Statement → α} {c : Call}
    (held : ∀ s : Statement, field (s.facet facet) = field s)
    (unkinded : ∀ (s : Statement) kind, field { s with kind := kind } = field s)
    (other : facet ≠ c.facet) (notSource : facet ≠ .source) (s : Statement) :
    field (s.apply c) = field s := by
  have recorded (s : Statement) (error? : Option Error) : field (s.record error?) = field s := by
    rw [← held, facet_record, held]
  cases clause : c.verb? with
  | none => rw [← held, (apply_actsOn clause).facet_eq_of_ne other, held]
  | some verb =>
    have became {kind : Kind} {change : Statement → Statement}
        (kept : ∀ t, field (change t) = field t) : field (s.become kind change) = field s := by
      unfold become
      split
      · exact recorded s _
      · rw [kept, unkinded]
    have listed (kept items : List Operand) (t : Statement) (notHead : facet ≠ .head) :
        field (t.extendSelectList kept items) = field t := by
      rw [← held, ← held t]
      cases facet <;> first | rfl | exact absurd rfl notHead
    have aimed (kind : Kind) (table : String) (notHead : facet ≠ .head) :
        field (s.aimAt kind table) = field s := by
      refine became fun t => ?_
      split
      · exact recorded t _
      · rw [← held, ← held t]
        cases facet <;> first | rfl | exact absurd rfl notHead | exact absurd rfl notSource
    cases c with
    | select items => exact became fun t => listed [] items t other
    | addSelect items => exact became fun t => listed t.selectList items t other
    | insertInto table => exact aimed .insert table other
    | updateTable table => exact aimed .update table other
    | deleteFrom table => exact aimed .delete table other
    | _ => cases clause

/-- A run within one family acts on its facet. -/
theorem run_actsOn {calls : List Call}
    (family : ∀ c ∈ calls, c.verb? = none ∧ c.facet = facet) :
    ActsOn facet fun s => s.run calls := by
  apply ActsOn.foldl
  intro c member
  obtain ⟨clause, same⟩ := family c member
  exact same ▸ apply_actsOn clause

end Statement
end SqlBuilder
