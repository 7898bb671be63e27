import SqlBuilder.Statement.Refusal

/-!
# Grouping, ordering and paging

How a SELECT arranges its rows. Row counts are 64-bit words; the start of a page saturates instead
of wrapping around.
-/
namespace SqlBuilder

/-- The product, or the largest word if the product does not fit. -/
def saturatingMul (a b : UInt64) : UInt64 :=
  UInt64.ofNat (min (a.toNat * b.toNat) (UInt64.size - 1))

theorem toNat_saturatingMul (a b : UInt64) :
    (saturatingMul a b).toNat = min (a.toNat * b.toNat) (UInt64.size - 1) := by
  have : min (a.toNat * b.toNat) (UInt64.size - 1) < UInt64.size :=
    Nat.lt_of_le_of_lt (Nat.min_le_right _ _) (by decide)
  exact UInt64.toNat_ofNat_of_lt this

namespace Statement

def groupBy (s : Statement) (columns : List String) : Statement :=
  s.ifAccepts .grouping fun s => { s with groupColumns := columns }

def addGroupBy (s : Statement) (columns : List String) : Statement :=
  s.ifAccepts .grouping fun s => { s with groupColumns := s.groupColumns ++ columns }

def orderBy (s : Statement) (terms : List (String × Direction)) : Statement :=
  s.ifAccepts .ordering fun s => { s with orderTerms := terms }

def addOrderBy (s : Statement) (terms : List (String × Direction)) : Statement :=
  s.ifAccepts .ordering fun s => { s with orderTerms := s.orderTerms ++ terms }

def limit (s : Statement) (count : UInt64) : Statement :=
  s.ifAccepts .paging fun s => { s with rowLimit := some count }

def offset (s : Statement) (count : UInt64) : Statement :=
  s.ifAccepts .paging fun s => { s with rowOffset := count }

/-- Selects one page. Pages count from one; page zero is the first page and a page holds at least
one row. -/
def paginate (s : Statement) (page perPage : UInt64) : Statement :=
  s.ifAccepts .paging fun s =>
    let size := max perPage 1
    { s with rowLimit := some size, rowOffset := saturatingMul (max page 1 - 1) size }

end Statement
end SqlBuilder
