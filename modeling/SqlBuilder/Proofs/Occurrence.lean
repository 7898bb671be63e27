import Mathlib.Data.List.Forall2
import SqlBuilder.Rendering.Layout

/-!
# Texts that occur in order

`OccurInOrder texts sql` says that the texts stand in `sql` byte for byte, as disjoint pieces and in
this order. The layout keeps what its parts hold: it puts keywords between them and leaves out
nothing but empty parts.
-/
namespace SqlBuilder

/-- The texts stand in `sql` as disjoint pieces, one behind the other. -/
def OccurInOrder : List String → String → Prop
  | [], _ => True
  | text :: rest, sql => ∃ before after, sql = before ++ text ++ after ∧ OccurInOrder rest after

namespace OccurInOrder

variable {α : Type} {texts more : List String} {a b c : String}

theorem prepend (occur : OccurInOrder texts b) (a : String) : OccurInOrder texts (a ++ b) := by
  cases texts with
  | nil => trivial
  | cons text rest =>
    obtain ⟨before, after, rfl, later⟩ := occur
    refine ⟨a ++ before, after, ?_, later⟩
    simp only [String.append_assoc]

theorem append (first : OccurInOrder texts a) (second : OccurInOrder more b) :
    OccurInOrder (texts ++ more) (a ++ b) := by
  induction texts generalizing a with
  | nil => exact second.prepend a
  | cons text rest ih =>
    obtain ⟨before, after, rfl, later⟩ := first
    refine ⟨before, after ++ b, ?_, ih later⟩
    simp only [String.append_assoc]

theorem extend (occur : OccurInOrder texts a) (b : String) : OccurInOrder texts (a ++ b) := by
  have both : OccurInOrder (texts ++ []) (a ++ b) := occur.append (b := b) trivial
  rwa [List.append_nil] at both

theorem self (text : String) : OccurInOrder [text] text :=
  ⟨"", "", by rw [String.empty_append, String.append_empty], trivial⟩

/-- Only empty texts occur in nothing, and those occur everywhere. -/
theorem of_empty (occur : OccurInOrder texts "") (sql : String) : OccurInOrder texts sql := by
  induction texts with
  | nil => trivial
  | cons text rest ih =>
    obtain ⟨before, after, same, later⟩ := occur
    have empty := same.symm
    rw [String.append_eq_empty_iff, String.append_eq_empty_iff] at empty
    obtain ⟨⟨_, rfl⟩, rfl⟩ := empty
    exact ⟨"", sql, by rw [String.empty_append, String.empty_append], ih later⟩

/-- A list of parts holds what its first part and the others hold. -/
theorem intercalate_cons {separator : String} {parts : List String}
    (first : OccurInOrder texts a) (later : OccurInOrder more (separator.intercalate parts)) :
    OccurInOrder (texts ++ more) (separator.intercalate (a :: parts)) := by
  cases parts with
  | nil =>
    rw [String.intercalate_nil] at later
    rw [String.intercalate_singleton]
    have both := first.append (later.of_empty "")
    rwa [String.append_empty] at both
  | cons part rest =>
    rw [String.intercalate_cons_cons]
    exact (first.extend separator).append later

theorem intercalate {items : List α} {parts : List String} {held : α → List String}
    (separator : String)
    (each : List.Forall₂ (fun item part => OccurInOrder (held item) part) items parts) :
    OccurInOrder (items.flatMap held) (separator.intercalate parts) := by
  induction each with
  | nil => trivial
  | cons first _ ih =>
    rw [List.flatMap_cons]
    exact intercalate_cons first ih

/-- Leaving out empty parts loses nothing. -/
theorem intercalate_filter {items : List α} {parts : List String} {held : α → List String}
    (separator : String)
    (each : List.Forall₂ (fun item part => OccurInOrder (held item) part) items parts) :
    OccurInOrder (items.flatMap held) (separator.intercalate (parts.filter (· ≠ ""))) := by
  induction each with
  | nil => trivial
  | @cons item part items parts first _ ih =>
    rw [List.flatMap_cons]
    by_cases empty : part = ""
    · subst empty
      rw [List.filter_cons_of_neg (by simp)]
      have both := (first.of_empty "").append ih
      rwa [String.empty_append] at both
    · rw [List.filter_cons_of_pos (by simp [empty])]
      exact intercalate_cons first ih

theorem names (separator : String) (names : List String) :
    OccurInOrder names (separator.intercalate names) := by
  have each : List.Forall₂ (fun name part => OccurInOrder [name] part) names names :=
    List.forall₂_same.mpr fun name _ => self name
  simpa using intercalate separator each

end OccurInOrder

namespace Layout

variable {texts more : List String} {a b : String}

theorem spaced_append {front back : List String} (first : OccurInOrder texts (spaced front))
    (second : OccurInOrder more (spaced back)) :
    OccurInOrder (texts ++ more) (spaced (front ++ back)) := by
  unfold spaced at *
  rw [List.filter_append]
  by_cases noFront : front.filter (· ≠ "") = []
  · rw [noFront, String.intercalate_nil] at first
    rw [noFront, List.nil_append]
    have both := (first.of_empty "").append second
    rwa [String.empty_append] at both
  by_cases noBack : back.filter (· ≠ "") = []
  · rw [noBack, String.intercalate_nil] at second
    rw [noBack, List.append_nil]
    have both := first.append (second.of_empty "")
    rwa [String.append_empty] at both
  rw [String.intercalate_append_of_ne_nil noFront noBack]
  exact (first.extend " ").append second

theorem spaced_singleton (occur : OccurInOrder texts a) : OccurInOrder texts (spaced [a]) := by
  unfold spaced
  by_cases empty : a = ""
  · subst empty
    exact occur
  · rw [List.filter_cons_of_pos (by simp [empty]), List.filter_nil, String.intercalate_singleton]
    exact occur

theorem occurInOrder_parenthesized (occur : OccurInOrder texts a) :
    OccurInOrder texts (parenthesized a) :=
  (occur.prepend "(").extend ")"

theorem occurInOrder_clause {α : Type} {items : List α} {parts : List String}
    {held : α → List String} (keyword separator : String)
    (each : List.Forall₂ (fun item part => OccurInOrder (held item) part) items parts) :
    OccurInOrder (items.flatMap held) (clause keyword separator parts) := by
  have joined := OccurInOrder.intercalate separator each
  cases each with
  | nil => trivial
  | cons => exact joined.prepend _

theorem occurInOrder_cte (name : String) (columns : Option (List String)) {body : String}
    (inBody : OccurInOrder texts body) :
    OccurInOrder (name :: columns.getD [] ++ texts) (cte name columns body) := by
  have named : OccurInOrder [name] (name ++ " ") := (OccurInOrder.self name).extend " "
  have listed : OccurInOrder (columns.getD [])
      (leading (columns.map fun names => parenthesized (commaList names))) := by
    cases columns with
    | none => trivial
    | some names => exact (occurInOrder_parenthesized (.names "," names)).extend " "
  exact ((named.append listed).extend "AS ").append (occurInOrder_parenthesized inBody)

theorem occurInOrder_join (form : JoinForm) {target : String} {condition : Option String}
    (inTarget : OccurInOrder texts target) (inCondition : OccurInOrder more (condition.getD "")) :
    OccurInOrder (texts ++ more) (join form target condition) := by
  have joined : OccurInOrder texts (form.keyword ++ " " ++ target) := inTarget.prepend _
  cases condition with
  | none =>
    have both := joined.append inCondition
    rwa [Option.getD_none, String.append_empty] at both
  | some condition => exact (joined.extend " ON ").append inCondition

theorem occurInOrder_condition (connector : Option Connector) (modifier : Option Modifier)
    {body : String} (inBody : OccurInOrder texts body) :
    OccurInOrder texts (condition connector modifier body) :=
  inBody.prepend _

theorem occurInOrder_unionMember (keepDuplicates ownArrangement : Bool) {text : String}
    (inText : OccurInOrder texts text) :
    OccurInOrder texts (unionMember keepDuplicates ownArrangement text) := by
  refine OccurInOrder.prepend ?_ _
  split
  · exact occurInOrder_parenthesized inText
  · exact inText

theorem occurInOrder_insertedValues (columns : List String) {values : List String}
    (inValues : OccurInOrder texts (commaList values)) :
    OccurInOrder (columns ++ texts) (insertedValues columns values) := by
  have listed : OccurInOrder columns (parenthesized (commaList columns)) :=
    occurInOrder_parenthesized (.names "," columns)
  exact (listed.extend " VALUES ").append (occurInOrder_parenthesized inValues)

theorem occurInOrder_derived (aliasName : Option String) {text : String}
    (inText : OccurInOrder texts text) :
    OccurInOrder (texts ++ aliasName.toList) (derived aliasName text) := by
  have enclosed := occurInOrder_parenthesized inText
  cases aliasName with
  | none =>
    rw [Option.toList_none, List.append_nil]
    exact enclosed
  | some name => exact (enclosed.extend " AS ").append (.self name)

end Layout
end SqlBuilder
