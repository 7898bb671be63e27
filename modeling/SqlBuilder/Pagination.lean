/-!
# Pagination clauses

The one clause whose wording depends on the dialect. A strategy turns a row limit and an offset into
the clause; it may also give none.
-/
namespace SqlBuilder

structure Pagination where
  clause? (limit : Option UInt64) (offset : UInt64) : Option String

/-- The decimal digits of a word. -/
def decimal (n : UInt64) : String := n.toNat.repr

theorem isDigit_of_mem_decimal {n : UInt64} {c : Char} (member : c ∈ (decimal n).toList) :
    c.isDigit = true := by
  rw [decimal, Nat.toList_repr] at member
  exact Nat.isDigit_of_mem_toDigits (by decide) (by decide) member

/-- A word can be read back from its digits. -/
theorem ofDigitChars_decimal (n : UInt64) : Nat.ofDigitChars 10 (decimal n).toList 0 = n.toNat := by
  rw [decimal, Nat.toList_repr, Nat.ofDigitChars_ten_toDigits]

namespace Pagination

/-- `LIMIT n OFFSET m`, either part alone where the other says nothing. -/
def limitOffset : Pagination where
  clause?
    | none, offset => if offset = 0 then none else some ("OFFSET " ++ decimal offset)
    | some limit, offset =>
        if offset = 0 then some ("LIMIT " ++ decimal limit)
        else some ("LIMIT " ++ decimal limit ++ " OFFSET " ++ decimal offset)

/-- `OFFSET m ROWS FETCH NEXT n ROWS ONLY`; a limit needs the offset in front of it, even zero. -/
def offsetFetch : Pagination where
  clause?
    | none, offset => if offset = 0 then none else some ("OFFSET " ++ decimal offset ++ " ROWS")
    | some limit, offset =>
        some ("OFFSET " ++ decimal offset ++ " ROWS FETCH NEXT " ++ decimal limit ++ " ROWS ONLY")

end Pagination
end SqlBuilder
