import Mathlib.Data.Set.Lattice
import Mathlib.Order.Interval.Set.Basic
import SqlBuilder.Proofs.RecordedErrors

/-!
# Pages and their rows

A row limit and an offset select a window of the rows that a statement finds. The windows of pages
of one size lie side by side: each page starts where the one before it ends, and the first pages
cover the first rows (`Statement.pages_tile`). Limits and offsets are 64-bit words and the rows are
counted without bound. The start of a page saturates, so a window is exact as long as the rows in
front of it can be counted in a word.
-/
namespace SqlBuilder

theorem toNat_max (a b : UInt64) : (max a b).toNat = max a.toNat b.toNat := by
  change (if a ≤ b then b else a).toNat = _
  split
  next first => exact (max_eq_right (UInt64.le_iff_toNat_le.mp first)).symm
  next second =>
    have later := UInt64.le_iff_toNat_le.not.mp second
    exact (max_eq_left (by omega)).symm

/-! ### One page -/

/-- How many rows come before a page. -/
def pageStart (page perPage : UInt64) : UInt64 :=
  saturatingMul (max page 1 - 1) (max perPage 1)

section Numbers

variable (page perPage : UInt64)

/-- The product is taken without bound and only then limited to a word. -/
theorem toNat_pageStart :
    (pageStart page perPage).toNat =
      min ((max page.toNat 1 - 1) * max perPage.toNat 1) (UInt64.size - 1) := by
  have counted : 1 ≤ max page 1 := by
    rw [UInt64.le_iff_toNat_le, toNat_max]
    exact le_max_right _ _
  rw [pageStart, toNat_saturatingMul, UInt64.toNat_sub_of_le _ _ counted, toNat_max, toNat_max]
  rfl

theorem pageStart_zero : pageStart 0 perPage = pageStart 1 perPage := rfl

theorem pageStart_of_size_zero : pageStart page 0 = pageStart page 1 := rfl

end Numbers

theorem pageStart_mono {page later : UInt64} (order : page ≤ later) (perPage : UInt64) :
    pageStart page perPage ≤ pageStart later perPage := by
  rw [UInt64.le_iff_toNat_le, toNat_pageStart, toNat_pageStart]
  have order' := UInt64.le_iff_toNat_le.mp order
  have rows : (max page.toNat 1 - 1) * max perPage.toNat 1 ≤
      (max later.toNat 1 - 1) * max perPage.toNat 1 := Nat.mul_le_mul_right _ (by omega)
  omega

/-- Page `p` of `size` rows starts behind `p - 1` full pages. -/
theorem toNat_pageStart_of_lt {page size : UInt64} (counted : 1 ≤ page) (filled : 1 ≤ size)
    (starts : (page.toNat - 1) * size.toNat < UInt64.size) :
    (pageStart page size).toNat = (page.toNat - 1) * size.toNat := by
  have counted' : 1 ≤ page.toNat := UInt64.le_iff_toNat_le.mp counted
  have filled' : 1 ≤ size.toNat := UInt64.le_iff_toNat_le.mp filled
  rw [toNat_pageStart, max_eq_left counted', max_eq_left filled']
  omega

namespace Statement

theorem paginate_eq {s : Statement} (opened : s.gateError? .paging = none)
    (page perPage : UInt64) :
    s.paginate page perPage =
      { s with rowLimit := some (max perPage 1), rowOffset := pageStart page perPage } :=
  ifAccepts_eq_of_open opened

/-- The numbers, from zero, of the rows that a statement selects of those it finds. -/
def rowWindow (s : Statement) : Set ℕ :=
  match s.rowLimit with
  | none => Set.Ici s.rowOffset.toNat
  | some limit => Set.Ico s.rowOffset.toNat (s.rowOffset.toNat + limit.toNat)

theorem rowWindow_paginate {s : Statement} (opened : s.gateError? .paging = none)
    {page size : UInt64} (counted : 1 ≤ page) (filled : 1 ≤ size)
    (starts : (page.toNat - 1) * size.toNat < UInt64.size) :
    (s.paginate page size).rowWindow =
      Set.Ico ((page.toNat - 1) * size.toNat) (page.toNat * size.toNat) := by
  have counted' : 1 ≤ page.toNat := UInt64.le_iff_toNat_le.mp counted
  have filled' : 1 ≤ size.toNat := UInt64.le_iff_toNat_le.mp filled
  have ends : (page.toNat - 1) * size.toNat + size.toNat = page.toNat * size.toNat := by
    rw [← Nat.succ_mul, Nat.succ_eq_add_one, Nat.sub_add_cancel counted']
  rw [paginate_eq opened]
  simp only [rowWindow, toNat_pageStart_of_lt counted filled starts, toNat_max,
    UInt64.toNat_one, max_eq_left filled', ends]

/-- How the pages of a statement lie among its rows. -/
structure PagesTile (s : Statement) : Prop where
  /-- Only the limit and the offset change, and they do not depend on those that were set before.
  The offset is the product without wrapping around, limited to a word. -/
  page : ∀ page perPage, ∃ limit offset,
    s.paginate page perPage = { s with rowLimit := some limit, rowOffset := offset } ∧
      1 ≤ limit ∧ limit.toNat = max perPage.toNat 1 ∧
      offset.toNat = min ((max page.toNat 1 - 1) * limit.toNat) (UInt64.size - 1)
  zeroPage : ∀ perPage, s.paginate 0 perPage = s.paginate 1 perPage
  zeroSize : ∀ page, s.paginate page 0 = s.paginate page 1
  ordered : ∀ page later perPage, page ≤ later →
    (s.paginate page perPage).rowOffset ≤ (s.paginate later perPage).rowOffset
  /-- No row is on two pages. -/
  disjoint : ∀ size first second : UInt64, 1 ≤ size → 1 ≤ first → first < second →
    (second.toNat - 1) * size.toNat < UInt64.size →
      ∀ row ∈ (s.paginate first size).rowWindow, row ∉ (s.paginate second size).rowWindow
  /-- A page ends where the next one starts. -/
  meet : ∀ size first second : UInt64, 1 ≤ size → 1 ≤ first → second.toNat = first.toNat + 1 →
    (second.toNat - 1) * size.toNat < UInt64.size → ∃ before border after,
      (s.paginate first size).rowWindow = Set.Ico before border ∧
        (s.paginate second size).rowWindow = Set.Ico border after
  /-- The first pages hold the first rows, all of them. -/
  cover : ∀ size last : UInt64, 1 ≤ size → (last.toNat - 1) * size.toNat < UInt64.size →
    ⋃ (page : UInt64) (_ : 1 ≤ page ∧ page ≤ last), (s.paginate page size).rowWindow =
      Set.Ico 0 (last.toNat * size.toNat)

section Tiling

variable {s : Statement} (opened : s.gateError? .paging = none) {size : UInt64} (filled : 1 ≤ size)
include opened filled

theorem disjoint_pages {first second : UInt64} (counted : 1 ≤ first) (order : first < second)
    (starts : (second.toNat - 1) * size.toNat < UInt64.size) :
    ∀ row ∈ (s.paginate first size).rowWindow, row ∉ (s.paginate second size).rowWindow := by
  have counted' : 1 ≤ first.toNat := UInt64.le_iff_toNat_le.mp counted
  have order' : first.toNat < second.toNat := UInt64.lt_iff_toNat_lt.mp order
  have later : 1 ≤ second := UInt64.le_iff_toNat_le.mpr (counted'.trans order'.le)
  have ends : first.toNat * size.toNat ≤ (second.toNat - 1) * size.toNat :=
    Nat.mul_le_mul_right _ (by omega)
  have earlier : (first.toNat - 1) * size.toNat ≤ (second.toNat - 1) * size.toNat :=
    Nat.mul_le_mul_right _ (by omega)
  rw [rowWindow_paginate opened counted filled (earlier.trans_lt starts),
    rowWindow_paginate opened later filled starts]
  rintro row ⟨-, inFirst⟩ ⟨inSecond, -⟩
  exact absurd inSecond (inFirst.trans_le ends).not_ge

theorem pages_meet {first second : UInt64} (counted : 1 ≤ first)
    (next : second.toNat = first.toNat + 1)
    (starts : (second.toNat - 1) * size.toNat < UInt64.size) :
    ∃ before border after, (s.paginate first size).rowWindow = Set.Ico before border ∧
      (s.paginate second size).rowWindow = Set.Ico border after := by
  have later : 1 ≤ second := by
    rw [UInt64.le_iff_toNat_le, next]
    exact Nat.le_add_left 1 _
  have border : second.toNat - 1 = first.toNat := by omega
  have earlier : (first.toNat - 1) * size.toNat < UInt64.size := by
    refine (Nat.mul_le_mul_right _ ?_).trans_lt starts
    omega
  have firstWindow := rowWindow_paginate opened counted filled earlier
  have secondWindow := rowWindow_paginate opened later filled starts
  rw [border] at secondWindow
  exact ⟨_, _, _, firstWindow, secondWindow⟩

theorem iUnion_pages {last : UInt64} (starts : (last.toNat - 1) * size.toNat < UInt64.size) :
    ⋃ (page : UInt64) (_ : 1 ≤ page ∧ page ≤ last), (s.paginate page size).rowWindow =
      Set.Ico 0 (last.toNat * size.toNat) := by
  have window {page : UInt64} (counted : 1 ≤ page) (reached : page ≤ last) :
      (s.paginate page size).rowWindow =
        Set.Ico ((page.toNat - 1) * size.toNat) (page.toNat * size.toNat) := by
    have reached' : page.toNat ≤ last.toNat := UInt64.le_iff_toNat_le.mp reached
    refine rowWindow_paginate opened counted filled ((Nat.mul_le_mul_right _ ?_).trans_lt starts)
    omega
  have filled' : 0 < size.toNat := UInt64.le_iff_toNat_le.mp filled
  ext row
  simp only [Set.mem_iUnion, Set.mem_Ico, Nat.zero_le, true_and, exists_prop]
  constructor
  · rintro ⟨page, ⟨counted, reached⟩, inside⟩
    rw [window counted reached] at inside
    exact inside.2.trans_le (Nat.mul_le_mul_right _ (UInt64.le_iff_toNat_le.mp reached))
  · intro inside
    -- The row is on the page whose number is one more than the full pages in front of it.
    have full : row / size.toNat < last.toNat := Nat.div_lt_of_lt_mul (Nat.mul_comm _ _ ▸ inside)
    have word : row / size.toNat + 1 < UInt64.size := Nat.lt_of_le_of_lt full last.toNat_lt
    have number : (UInt64.ofNat (row / size.toNat + 1)).toNat = row / size.toNat + 1 :=
      UInt64.toNat_ofNat_of_lt word
    have counted : 1 ≤ UInt64.ofNat (row / size.toNat + 1) := by
      rw [UInt64.le_iff_toNat_le, number]
      exact Nat.le_add_left 1 _
    have reached : UInt64.ofNat (row / size.toNat + 1) ≤ last := by
      rw [UInt64.le_iff_toNat_le, number]
      exact full
    refine ⟨_, ⟨counted, reached⟩, ?_⟩
    rw [window counted reached, number, Nat.add_sub_cancel]
    refine ⟨Nat.div_mul_le_self row size.toNat, ?_⟩
    rw [Nat.succ_mul]
    exact Nat.lt_div_mul_add filled'

end Tiling

/-- The pages of a statement that takes LIMIT and OFFSET tile its rows. -/
theorem pages_tile {s : Statement} (opened : s.gateError? .paging = none) : s.PagesTile where
  page page perPage := by
    refine ⟨_, _, paginate_eq opened page perPage, ?_, toNat_max perPage 1, ?_⟩
    · rw [UInt64.le_iff_toNat_le, toNat_max]
      exact le_max_right _ _
    · rw [toNat_pageStart, toNat_max]
      rfl
  zeroPage perPage := by rw [paginate_eq opened, paginate_eq opened, pageStart_zero]
  zeroSize page := by rw [paginate_eq opened, paginate_eq opened, pageStart_of_size_zero]; rfl
  ordered page later perPage order := by
    rw [paginate_eq opened, paginate_eq opened]
    exact pageStart_mono order perPage
  disjoint _ _ _ filled counted order starts := disjoint_pages opened filled counted order starts
  meet _ _ _ filled counted next starts := pages_meet opened filled counted next starts
  cover _ _ filled starts := iUnion_pages opened filled starts

/-- Two pages of half the range of a word each cover more rows than a word can count. -/
theorem pages_tile_widePages :
    readsTable.gateError? .paging = none ∧ readsTable.PagesTile ∧
      ⋃ (page : UInt64) (_ : 1 ≤ page ∧ page ≤ 2),
        (readsTable.paginate page 9223372036854775808).rowWindow = Set.Ico 0 (UInt64.size) := by
  have tiled : readsTable.PagesTile := pages_tile rfl
  exact ⟨rfl, tiled, tiled.cover 9223372036854775808 2 (by decide) (by decide)⟩

end Statement
end SqlBuilder
