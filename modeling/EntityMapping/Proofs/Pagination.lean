import EntityMapping.Store.Query
import Mathlib.Data.List.Forall2
import Mathlib.Logic.Function.Iterate

/-!
# Pages and arguments

What the arguments of a repository call say, and which results one page request after the other asks for. Numbers
that do not fit stay at the largest one; a list whose length fits is cut as if they were exact.

* `findPageable_eq` — two ways to look for a page request among arguments
* `SpecialParameters.sorts_ofList` — the sorts among arguments
* `Pageable.IsForPage` — the page that a request is for, counted without end
* `DocumentQuery.window_paged`, `DocumentQuery.window_paged_iterate` — the results that a page request, and those behind
  it, ask for
* `flatMap_pageOf_pageCount` — pages put together
-/

namespace EntityMapping

/-! ## Arguments -/

/-- The sorts that an argument says. -/
def Parameter.sortKeys : Parameter → List SortKey
  | .sort s => [s]
  | .sorts ss => ss
  | _ => []

/-- The limit that an argument says. -/
def Parameter.limit? : Parameter → Option Limit
  | .limit l => some l
  | _ => none

namespace SpecialParameters

/-- The first page request stays. -/
theorem pageable_foldl_take (parameters : List Parameter) (special : SpecialParameters) :
    (parameters.foldl take special).pageable = special.pageable.or (findPageable parameters) := by
  induction parameters generalizing special with
  | nil => simp [findPageable]
  | cons parameter parameters ih =>
    rw [List.foldl_cons, ih]
    cases parameter with
    | pageable p => cases h : special.pageable <;> simp [take, findPageable, h]
    | sort | sorts | limit | other => simp [take, findPageable]

theorem sorts_foldl_take (parameters : List Parameter) (special : SpecialParameters) :
    (parameters.foldl take special).sorts = special.sorts ++ parameters.flatMap Parameter.sortKeys := by
  induction parameters generalizing special with
  | nil => simp
  | cons parameter parameters ih =>
    rw [List.foldl_cons, ih]
    cases parameter <;> simp [take, Parameter.sortKeys]

/-- All sorts count, in the order of the arguments. -/
theorem sorts_ofList (parameters : List Parameter) :
    (ofList parameters).sorts = parameters.flatMap Parameter.sortKeys :=
  sorts_foldl_take parameters empty

/-- The first limit stays. -/
theorem limit_foldl_take (parameters : List Parameter) (special : SpecialParameters) :
    (parameters.foldl take special).limit = special.limit.or (parameters.findSome? Parameter.limit?) := by
  induction parameters generalizing special with
  | nil => simp
  | cons parameter parameters ih =>
    rw [List.foldl_cons, ih]
    cases parameter with
    | limit l => cases h : special.limit <;> simp [take, Parameter.limit?, List.findSome?_cons, h]
    | pageable | sort | sorts | other => simp [take, Parameter.limit?, List.findSome?_cons]

/-- The first limit counts. -/
theorem limit_ofList (parameters : List Parameter) :
    (ofList parameters).limit = parameters.findSome? Parameter.limit? :=
  limit_foldl_take parameters empty

theorem limit_ofList_of_not_mem {parameters : List Parameter} (h : ∀ l, .limit l ∉ parameters) :
    (ofList parameters).limit = none := by
  rw [limit_ofList, List.findSome?_eq_none_iff]
  intro parameter hparameter
  cases parameter with
  | limit l => exact absurd hparameter (h l)
  | pageable | sort | sorts | other => rfl

end SpecialParameters

/-- Looking for the first page request finds the one that is taken when all arguments are looked at. -/
theorem findPageable_eq (parameters : List Parameter) :
    findPageable parameters = (SpecialParameters.ofList parameters).pageable := by
  rw [SpecialParameters.ofList, SpecialParameters.pageable_foldl_take]
  rfl

theorem findPageable_eq_some_iff {parameters : List Parameter} {p : Pageable} :
    findPageable parameters = some p ↔
      ∃ before after, parameters = before ++ .pageable p :: after ∧ ∀ p', .pageable p' ∉ before := by
  rw [findPageable, List.findSome?_eq_some_iff]
  constructor
  · rintro ⟨before, parameter, after, rfl, hparameter, hbefore⟩
    cases parameter with
    | pageable p' =>
      obtain rfl : p' = p := by simpa using hparameter
      exact ⟨before, after, rfl, fun p' hp' => by simpa using hbefore _ hp'⟩
    | sort | sorts | limit | other => simp at hparameter
  · rintro ⟨before, after, rfl, hbefore⟩
    refine ⟨before, .pageable p, after, rfl, rfl, fun parameter hparameter => ?_⟩
    cases parameter with
    | pageable p' => exact absurd hparameter (hbefore p')
    | sort | sorts | limit | other => rfl

/-! ## Pages of a list -/

/-- The page of a list that `k` pages of the same size are in front of. -/
def pageOf {α : Type} (size k : Nat) (results : List α) : List α := (results.drop (k * size)).take size

/-- The number of pages of a list that are not empty. -/
def pageCount {α : Type} (size : Nat) (results : List α) : Nat := (results.length + size - 1) / size

section Pages

variable {α : Type} {size : Nat} {results : List α}

theorem length_pageOf (size k : Nat) (results : List α) :
    (pageOf size k results).length = min size (results.length - k * size) := by
  rw [pageOf, List.length_take, List.length_drop]

/-- The first pages hold the first results. -/
theorem flatMap_pageOf (size n : Nat) (results : List α) :
    ((List.range n).flatMap fun k => pageOf size k results) = results.take (n * size) := by
  induction n with
  | zero => simp
  | succ n ih =>
    rw [List.range_succ, List.flatMap_append, ih, List.flatMap_singleton, pageOf, Nat.succ_mul, List.take_add]

/-- Empty pages behind the others add nothing. -/
theorem flatMap_range_add {page : Nat → List α} {n : Nat} (hend : ∀ k, n ≤ k → page k = []) (k : Nat) :
    (List.range (n + k)).flatMap page = (List.range n).flatMap page := by
  induction k with
  | zero => rfl
  | succ k ih =>
    rw [← Nat.add_assoc, List.range_succ, List.flatMap_append, ih, List.flatMap_singleton,
      hend (n + k) (Nat.le_add_right n k), List.append_nil]

theorem lt_pageCount_iff (hsize : 0 < size) {k : Nat} : k < pageCount size results ↔ k * size < results.length := by
  rw [pageCount, Nat.lt_iff_add_one_le, Nat.le_div_iff_mul_le hsize, Nat.succ_mul]
  omega

/-- The pages that are not empty hold all results. -/
theorem flatMap_pageOf_pageCount (hsize : 0 < size) :
    ((List.range (pageCount size results)).flatMap fun k => pageOf size k results) = results := by
  rw [flatMap_pageOf, List.take_of_length_le]
  exact Nat.le_of_not_lt fun hlt => absurd ((lt_pageCount_iff hsize).mpr hlt) (Nat.lt_irrefl _)

theorem pageOf_ne_nil (hsize : 0 < size) {k : Nat} (hk : k < pageCount size results) : pageOf size k results ≠ [] := by
  have hlt := (lt_pageCount_iff hsize).mp hk
  rw [← List.length_pos_iff, length_pageOf]
  omega

theorem pageOf_eq_nil (hsize : 0 < size) {k : Nat} (hk : pageCount size results ≤ k) : pageOf size k results = [] := by
  have hle : ¬ k * size < results.length := mt (lt_pageCount_iff hsize).mpr (Nat.not_lt.mpr hk)
  rw [← List.length_eq_zero_iff, length_pageOf]
  omega

/-- All pages in front of another one that is not empty are full. -/
theorem length_pageOf_of_lt (hsize : 0 < size) {k : Nat} (hk : k + 1 < pageCount size results) :
    (pageOf size k results).length = size := by
  have hlt := (lt_pageCount_iff hsize).mp hk
  rw [Nat.succ_mul] at hlt
  rw [length_pageOf]
  omega

end Pages

/-! ## Page requests -/

namespace Pageable

theorem of_one {size : UInt64} (h : 1 ≤ size) : of 1 size = .ok ⟨1, size, []⟩ := by
  have hne : size ≠ 0 := by
    rintro rfl
    exact absurd h (by decide)
  simp [of, hne]

theorem foldl_sortBy (p : Pageable) (sorts : List SortKey) :
    sorts.foldl sortBy p = { p with sorts := p.sorts ++ sorts } := by
  induction sorts generalizing p with
  | nil => simp
  | cons s sorts ih => simp [ih, sortBy]

theorem size_iterate_next (p : Pageable) (k : Nat) : (next^[k] p).size = p.size := by
  induction k with
  | zero => rfl
  | succ k ih => rw [Function.iterate_succ_apply', next, ih]

theorem sorts_iterate_next (p : Pageable) (k : Nat) : (next^[k] p).sorts = p.sorts := by
  induction k with
  | zero => rfl
  | succ k ih => rw [Function.iterate_succ_apply', next, ih]

theorem toNat_offset (p : Pageable) (h : 1 ≤ p.page.toNat) :
    p.offset.toNat = min ((p.page.toNat - 1) * p.size.toNat) (2 ^ 64 - 1) := by
  have hle : (1 : UInt64) ≤ p.page := UInt64.le_iff_toNat_le.mpr h
  rw [offset, toNat_mulWithin, UInt64.toNat_sub_of_le _ _ hle]
  rfl

/-- Whether a request is the one for the `n`th page, where `n` has no largest value: the number in the request stays
at the largest one. -/
structure IsForPage (p : Pageable) (n : Nat) : Prop where
  page : p.page.toNat = min n (2 ^ 64 - 1)
  pos : 1 ≤ n
  size : 1 ≤ p.size.toNat

namespace IsForPage

variable {p : Pageable} {n : Nat}

theorem one_le_page (h : p.IsForPage n) : 1 ≤ p.page.toNat := by
  rw [h.page]
  exact Nat.le_min.mpr ⟨h.pos, by decide⟩

theorem next (h : p.IsForPage n) : p.next.IsForPage (n + 1) := by
  have hone : (1 : UInt64).toNat = 1 := rfl
  refine ⟨?_, Nat.le_add_left 1 n, h.size⟩
  rw [Pageable.next, toNat_addWithin, h.page, hone]
  omega

theorem iterate_next (h : p.IsForPage n) (k : Nat) : (Pageable.next^[k] p).IsForPage (n + k) := by
  induction k with
  | zero => exact h
  | succ k ih =>
    rw [Function.iterate_succ_apply']
    exact ih.next

end IsForPage

end Pageable

theorem DocumentQuery.window_sublist {α : Type} (q : DocumentQuery) (results : List α) :
    (q.window results).Sublist results := by
  unfold window
  dsimp only
  split
  · exact List.drop_sublist _ _
  · exact (List.take_sublist _ _).trans (List.drop_sublist _ _)

/-- Numbers of results to leave out that are not less than the length all have the same effect. -/
theorem drop_eq_drop_of_le {α : Type} {results : List α} {i j : Nat}
    (h : i = j ∨ results.length ≤ i ∧ results.length ≤ j) : results.drop i = results.drop j := by
  rcases h with rfl | ⟨hi, hj⟩
  · rfl
  · rw [List.drop_eq_nil_of_le hi, List.drop_eq_nil_of_le hj]

/-- **A request for a page asks for that page, as if numbers had no end**, in a list whose length is less than the
largest number. -/
theorem DocumentQuery.window_paged {α : Type} (q : DocumentQuery) {p : Pageable} {n : Nat} (h : p.IsForPage n)
    {results : List α} (hlength : results.length < 2 ^ 64 - 1) :
    (q.paged p).window results = pageOf p.size.toNat (n - 1) (results.drop q.skip.toNat) := by
  have hoffset := p.toNat_offset h.one_le_page
  rw [h.page] at hoffset
  simp only [window, paged, toNat_addWithin, hoffset, pageOf, List.drop_drop]
  congr 1
  refine drop_eq_drop_of_le ?_
  -- the page number stays where it is only when all results are in front of the page
  have hpos := h.pos
  by_cases hn : n ≤ 2 ^ 64 - 1
  · rw [Nat.min_eq_left hn]
    omega
  · rw [show min n (2 ^ 64 - 1) - 1 = 2 ^ 64 - 2 by omega]
    have hleft := Nat.le_mul_of_pos_right (2 ^ 64 - 2) h.size
    have hright := Nat.le_mul_of_pos_right (n - 1) h.size
    omega

/-- The requests behind the first one ask for one page after the other. -/
theorem DocumentQuery.window_paged_iterate {α : Type} (q : DocumentQuery) {p : Pageable} (hpage : p.page = 1)
    (hsize : 1 ≤ p.size) {results : List α} (hlength : results.length < 2 ^ 64 - 1) (k : Nat) :
    (q.paged (Pageable.next^[k] p)).window results = pageOf p.size.toNat k (results.drop q.skip.toNat) := by
  have hfirst : p.IsForPage 1 := ⟨by rw [hpage]; rfl, Nat.le_refl 1, UInt64.le_iff_toNat_le.mp hsize⟩
  rw [q.window_paged (hfirst.iterate_next k) hlength, Pageable.size_iterate_next, Nat.add_sub_cancel_left]

end EntityMapping
