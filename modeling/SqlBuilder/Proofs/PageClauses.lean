import SqlBuilder.Pagination

/-!
# Pages and their clauses

A pagination clause is a sequence of words and numbers, and splitting it at its spaces gives the
sequence back. Under both built-in strategies the row limit stands behind `LIMIT` or `NEXT` and the
offset behind `OFFSET`, so one reader takes the page back from either clause (`Pagination.pageOf`),
and both strategies leave the same pages without a clause.
-/
namespace SqlBuilder.Pagination

/-! ### Clauses as words -/

/-- The clause that consists of words. -/
def sentence? (words : List String) : Option String :=
  if words.isEmpty then none else some (" ".intercalate words)

def wordsOf : Option String → List String
  | none => []
  | some clause => (clause.split ' ').toList.map (·.copy)

theorem sentence?_eq_none_iff {words : List String} : sentence? words = none ↔ words = [] := by
  cases words <;> simp [sentence?]

theorem wordsOf_sentence? {words : List String} (solid : ∀ word ∈ words, ' ' ∉ word.toList) :
    wordsOf (sentence? words) = words := by
  have split := String.toList_split_intercalate solid
  cases words with
  | nil => rfl
  | cons word rest => simpa [sentence?, wordsOf] using split

theorem notMem_decimal (c : Char) (other : c.isDigit = false) (n : UInt64) :
    c ∉ (decimal n).toList := by
  intro member
  rw [isDigit_of_mem_decimal member] at other
  cases other

theorem decimal_ne (word : String) (verbal : ∃ c ∈ word.toList, c.isDigit = false) (n : UInt64) :
    decimal n ≠ word := by
  obtain ⟨c, member, other⟩ := verbal
  rintro rfl
  exact notMem_decimal c other n member

def limitOffsetWords (limit : Option UInt64) (offset : UInt64) : List String :=
  (limit.elim [] fun count => ["LIMIT", decimal count]) ++
    if offset = 0 then [] else ["OFFSET", decimal offset]

def offsetFetchWords (limit : Option UInt64) (offset : UInt64) : List String :=
  if limit = none ∧ offset = 0 then []
  else ["OFFSET", decimal offset, "ROWS"] ++
    limit.elim [] fun count => ["FETCH", "NEXT", decimal count, "ROWS", "ONLY"]

section Strategies

variable (limit : Option UInt64) (offset : UInt64)

theorem limitOffset_clause?_eq :
    limitOffset.clause? limit offset = sentence? (limitOffsetWords limit offset) := by
  cases limit <;> by_cases start : offset = 0 <;>
    simp [limitOffset, limitOffsetWords, sentence?, start, ← String.toList_inj]

theorem offsetFetch_clause?_eq :
    offsetFetch.clause? limit offset = sentence? (offsetFetchWords limit offset) := by
  cases limit <;> by_cases start : offset = 0 <;>
    simp [offsetFetch, offsetFetchWords, sentence?, start, ← String.toList_inj]

theorem solid_limitOffsetWords : ∀ word ∈ limitOffsetWords limit offset, ' ' ∉ word.toList := by
  have solid := notMem_decimal ' ' rfl
  cases limit <;> by_cases start : offset = 0 <;> simp [limitOffsetWords, start, solid]

theorem solid_offsetFetchWords : ∀ word ∈ offsetFetchWords limit offset, ' ' ∉ word.toList := by
  have solid := notMem_decimal ' ' rfl
  cases limit <;> by_cases start : offset = 0 <;> simp [offsetFetchWords, start, solid]

end Strategies

/-! ### Reading a page back -/

def number (digits : String) : UInt64 := UInt64.ofNat (Nat.ofDigitChars 10 digits.toList 0)

theorem number_decimal (n : UInt64) : number (decimal n) = n := by
  rw [number, ofDigitChars_decimal, UInt64.ofNat_toNat]

/-- The number behind the first occurrence of a word. -/
def numberBehind? (mark : String) : List String → Option UInt64
  | word :: next :: rest =>
      if word = mark then some (number next) else numberBehind? mark (next :: rest)
  | _ => none

/-- The page that a clause shows. -/
def pageOf (clause? : Option String) : Option UInt64 × UInt64 :=
  let words := wordsOf clause?
  ((numberBehind? "LIMIT" words).or (numberBehind? "NEXT" words),
    (numberBehind? "OFFSET" words).getD 0)

theorem pageOf_limitOffset (limit : Option UInt64) (offset : UInt64) :
    pageOf (limitOffset.clause? limit offset) = (limit, offset) := by
  have notNext := decimal_ne "NEXT" ⟨'N', by decide, rfl⟩
  have notOffset := decimal_ne "OFFSET" ⟨'O', by decide, rfl⟩
  rw [limitOffset_clause?_eq, pageOf, wordsOf_sentence? (solid_limitOffsetWords limit offset)]
  cases limit <;> by_cases start : offset = 0 <;>
    simp [limitOffsetWords, numberBehind?, number_decimal, start, notNext, notOffset]

theorem pageOf_offsetFetch (limit : Option UInt64) (offset : UInt64) :
    pageOf (offsetFetch.clause? limit offset) = (limit, offset) := by
  have notLimit := decimal_ne "LIMIT" ⟨'L', by decide, rfl⟩
  have notNext := decimal_ne "NEXT" ⟨'N', by decide, rfl⟩
  rw [offsetFetch_clause?_eq, pageOf, wordsOf_sentence? (solid_offsetFetchWords limit offset)]
  cases limit <;> by_cases start : offset = 0 <;>
    simp [offsetFetchWords, numberBehind?, number_decimal, start, notLimit, notNext]

/-! ### Clauses determine pages -/

/-- No two pages have the same clause. -/
def Distinguishes (strategy : Pagination) : Prop :=
  ∀ limit offset limit' offset', strategy.clause? limit offset = strategy.clause? limit' offset' →
    limit = limit' ∧ offset = offset'

theorem distinguishes_of_pageOf {strategy : Pagination}
    (readable : ∀ limit offset, pageOf (strategy.clause? limit offset) = (limit, offset)) :
    strategy.Distinguishes := by
  intro limit offset limit' offset' same
  have samePage : (limit, offset) = (limit', offset') := by
    rw [← readable limit offset, same, readable]
  exact Prod.mk.inj samePage

theorem limitOffset_eq_none_iff (limit : Option UInt64) (offset : UInt64) :
    limitOffset.clause? limit offset = none ↔ limit = none ∧ offset = 0 := by
  rw [limitOffset_clause?_eq, sentence?_eq_none_iff]
  cases limit <;> simp [limitOffsetWords]

theorem offsetFetch_eq_none_iff (limit : Option UInt64) (offset : UInt64) :
    offsetFetch.clause? limit offset = none ↔ limit = none ∧ offset = 0 := by
  rw [offsetFetch_clause?_eq, sentence?_eq_none_iff]
  cases limit <;> simp [offsetFetchWords]

/-- Under each built-in strategy a clause belongs to one page, which can be read back from it; and
both strategies write no clause for the same page, the one without a limit that starts at zero. -/
theorem clause_determines_page :
    (limitOffset.Distinguishes ∧ offsetFetch.Distinguishes) ∧
      (∀ limit offset, pageOf (limitOffset.clause? limit offset) = (limit, offset) ∧
        pageOf (offsetFetch.clause? limit offset) = (limit, offset)) ∧
      ∀ limit offset, (limitOffset.clause? limit offset = none ↔ limit = none ∧ offset = 0) ∧
        (offsetFetch.clause? limit offset = none ↔ limit = none ∧ offset = 0) := by
  refine ⟨⟨?_, ?_⟩, fun limit offset => ⟨?_, ?_⟩, fun limit offset => ⟨?_, ?_⟩⟩
  · exact distinguishes_of_pageOf pageOf_limitOffset
  · exact distinguishes_of_pageOf pageOf_offsetFetch
  · exact pageOf_limitOffset limit offset
  · exact pageOf_offsetFetch limit offset
  · exact limitOffset_eq_none_iff limit offset
  · exact offsetFetch_eq_none_iff limit offset

end SqlBuilder.Pagination
