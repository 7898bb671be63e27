import Mathlib.Data.List.Infix
import SqlBuilder.Proofs.RenderedParts

/-!
# What the log shows of a text

A render that succeeds is logged once and one that fails is not. The log shows the text, or as many
of its first characters as fit under the limit (`Text.LoggedAs`). The boundary at which a text is
cut is the greatest one up to the limit, whatever the widths of the characters around it, so no
prefix that fits is longer than the one that is kept.
-/
namespace SqlBuilder

namespace Text

variable {text : String} {limit : Nat}

/-! ### The boundary up to a limit -/

theorem boundary_le (text : String) (limit : Nat) : boundary text limit ≤ limit := by
  induction limit with
  | zero => exact Nat.le_refl 0
  | succ offset ih =>
    unfold boundary
    split
    · exact Nat.le_refl _
    · exact Nat.le_succ_of_le ih

/-- No boundary is passed over on the way back from the limit. -/
theorem le_boundary {offset : Nat} (between : String.Pos.Raw.IsValid text ⟨offset⟩)
    (within : offset ≤ limit) : offset ≤ boundary text limit := by
  induction limit with
  | zero => exact within
  | succ last ih =>
    unfold boundary
    split
    · exact within
    next inside =>
      have earlier : offset ≠ last + 1 := by
        rintro rfl
        exact inside (String.Pos.Raw.isValid_eq_true_iff.mpr between)
      exact ih (by omega)

/-! ### The prefix in front of it -/

theorem toByteArray_start (limit : Nat) (text : String) :
    (start limit text).toByteArray = text.toByteArray.extract 0 (boundary text limit) :=
  String.toByteArray_extract

theorem utf8ByteSize_start (limit : Nat) (text : String) :
    (start limit text).utf8ByteSize = boundary text limit := by
  have inside : boundary text limit ≤ text.utf8ByteSize :=
    (isValid_boundary text limit).le_utf8ByteSize
  rw [← String.size_toByteArray, toByteArray_start, ByteArray.size_extract,
    String.size_toByteArray]
  omega

/-- The cut does not change a character. -/
theorem exists_start_append (limit : Nat) (text : String) :
    ∃ rest, start limit text ++ rest = text := by
  obtain ⟨front, rest, split, offset⟩ :=
    String.Pos.Raw.isValid_iff_exists_append.mp (isValid_boundary text limit)
  have reached : boundary text limit = front.toByteArray.size := by
    simpa using congrArg String.Pos.Raw.byteIdx offset
  have same : start limit text = front := by
    rw [← String.toByteArray_inj, toByteArray_start, reached, split, String.toByteArray_append,
      ByteArray.extract_append_eq_left rfl]
  exact ⟨rest, by rw [same, ← split]⟩

/-- Of two prefixes of a text the one with fewer bytes has fewer characters. -/
theorem length_le_of_utf8ByteSize_le {front front' rest rest' : String}
    (split : front ++ rest = text) (split' : front' ++ rest' = text)
    (shorter : front.utf8ByteSize ≤ front'.utf8ByteSize) : front.length ≤ front'.length := by
  have starts : front.toList <+: text.toList := ⟨rest.toList, by rw [← split, String.toList_append]⟩
  have starts' : front'.toList <+: text.toList :=
    ⟨rest'.toList, by rw [← split', String.toList_append]⟩
  rw [← String.length_toList, ← String.length_toList]
  rcases List.prefix_or_prefix_of_prefix starts starts' with inner | ⟨more, outer⟩
  · exact inner.length_le
  · have extended : front = front' ++ String.ofList more := by
      rw [← String.toList_inj, String.toList_append, String.toList_ofList, outer]
    rw [extended, String.utf8ByteSize_append] at shorter
    have nothing : String.ofList more = "" := by
      rw [← String.utf8ByteSize_eq_zero_iff]
      omega
    rw [extended, nothing, String.append_empty]

/-! ### Logged texts -/

/-- What the log shows of a text under a limit of bytes: all of it if it fits, or else the longest
prefix of whole characters that does, marked as cut. -/
inductive LoggedAs (text : String) : Option UInt64 → String → Prop
  | unlimited : LoggedAs text none text
  | whole {limit : UInt64} (fits : text.utf8ByteSize ≤ limit.toNat) :
      LoggedAs text (some limit) text
  | cut {limit : UInt64} {kept rest : String} (exceeds : limit.toNat < text.utf8ByteSize)
      (split : kept ++ rest = text) (fits : kept.utf8ByteSize ≤ limit.toNat)
      (longest : ∀ other later, other ++ later = text → other.utf8ByteSize ≤ limit.toNat →
        other.length ≤ kept.length) :
      LoggedAs text (some limit) (kept ++ "...")

theorem loggedAs_truncate (text : String) (limit : UInt64) :
    LoggedAs text (some limit) (truncate limit.toNat text) := by
  unfold truncate
  split
  next fits => exact .whole fits
  next exceeds =>
    obtain ⟨rest, split⟩ := exists_start_append limit.toNat text
    refine .cut (Nat.lt_of_not_le exceeds) split ?_ fun other later splitOther fitsOther => ?_
    · rw [utf8ByteSize_start]
      exact boundary_le text limit.toNat
    · have between : String.Pos.Raw.IsValid text ⟨other.utf8ByteSize⟩ :=
        String.Pos.Raw.isValid_iff_exists_append.mpr ⟨other, later, splitOther.symm, rfl⟩
      refine length_le_of_utf8ByteSize_le splitOther split ?_
      rw [utf8ByteSize_start]
      exact le_boundary between fitsOther

/-- The mark is all that may stick out. -/
theorem LoggedAs.utf8ByteSize_le {limit : UInt64} {logged : String}
    (shown : LoggedAs text (some limit) logged) : logged.utf8ByteSize ≤ limit.toNat + 3 := by
  cases shown with
  | whole fits => exact Nat.le_add_right_of_le fits
  | cut exceeds split fits longest =>
    rw [String.utf8ByteSize_append]
    exact Nat.add_le_add_right fits 3

end Text

theorem Renderer.loggedAs_logRecord (r : Renderer) (kind : Option Kind) (sql : String) :
    Text.LoggedAs sql r.settings.maxLoggedBytes (r.logRecord kind sql).sql := by
  unfold logRecord
  cases r.settings.maxLoggedBytes with
  | none => exact .unlimited
  | some limit => exact Text.loggedAs_truncate sql limit

/-- A render that fails logs nothing. One that succeeds logs its text once, however many statements
are nested in the rendered one, and as much of it as the limit admits. Every text can be cut for any
limit without splitting a character. -/
theorem Renderer.log_render (r : Renderer) (s : Statement) :
    ((∃ e, (r.render s).result = .error e ∧ (r.render s).log = []) ∨
      ∃ sql record, (r.render s).result = .ok sql ∧ (r.render s).log = [record] ∧
        Text.LoggedAs sql r.settings.maxLoggedBytes record.sql ∧
        ∀ limit ∈ r.settings.maxLoggedBytes, record.sql.utf8ByteSize ≤ limit.toNat + 3) ∧
      ∀ text limit, String.Pos.Raw.IsValid text ⟨Text.boundary text limit⟩ := by
  refine ⟨?_, Text.isValid_boundary⟩
  cases outcome : s.render r.pagination with
  | error e =>
    have rendered : r.render s = ⟨.error e, []⟩ := by rw [render, outcome]
    rw [rendered]
    exact .inl ⟨e, rfl, rfl⟩
  | ok sql =>
    have rendered : r.render s = ⟨.ok sql, [r.logRecord s.kind sql]⟩ := by rw [render, outcome]
    have shown := r.loggedAs_logRecord s.kind sql
    have bounded : ∀ limit ∈ r.settings.maxLoggedBytes,
        (r.logRecord s.kind sql).sql.utf8ByteSize ≤ limit.toNat + 3 := by
      intro limit limited
      rw [Option.mem_def.mp limited] at shown
      exact shown.utf8ByteSize_le
    rw [rendered]
    exact .inr ⟨sql, r.logRecord s.kind sql, rfl, rfl, shown, bounded⟩

example : Text.truncate 2 "aé" = "a..." := by decide +kernel
example : Text.truncate 0 "é" = "..." := by decide +kernel

end SqlBuilder
