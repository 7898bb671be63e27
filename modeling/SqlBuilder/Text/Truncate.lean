/-!
# Truncation by bytes

A text that takes more than a given number of bytes in UTF-8 is cut between two characters and
marked. The cut is looked for from the limit backwards, one byte at a time.
-/
namespace SqlBuilder.Text

/-- The last byte offset up to a limit that does not fall inside a character. -/
def boundary (text : String) : Nat → Nat
  | 0 => 0
  | offset + 1 =>
      if String.Pos.Raw.isValid text ⟨offset + 1⟩ then offset + 1 else boundary text offset

/-- Every text can be cut at its boundaries. -/
theorem isValid_boundary (text : String) (limit : Nat) :
    String.Pos.Raw.IsValid text ⟨boundary text limit⟩ := by
  induction limit with
  | zero => exact String.Pos.Raw.isValid_zero
  | succ offset ih =>
    unfold boundary
    split
    next between => exact String.Pos.Raw.isValid_eq_true_iff.mp between
    next inside => exact ih

/-- The text in front of the last boundary up to a limit. -/
def start (limit : Nat) (text : String) : String :=
  text.extract text.startPos ⟨⟨boundary text limit⟩, isValid_boundary text limit⟩

def truncate (limit : Nat) (text : String) : String :=
  if text.utf8ByteSize ≤ limit then text else start limit text ++ "..."

end SqlBuilder.Text
