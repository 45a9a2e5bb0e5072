import EntityMapping.Proofs.Template.Paging

/-!
# Windows in exact numbers

Which results a call shows is computed with numbers of 64 bits that stay at the largest one when they do not fit. That
cannot be seen: in any list that is shorter than the largest number, the same results are cut out as by numbers that
have no end.

* `Pageable.Reached`, `Limit.Made` — requests and limits, with the numbers that they stand for
* `Window` — a part of a list in exact numbers
* `Template.cutsExactly` — the arguments of a call cut out the part that they would in exact numbers
-/

namespace EntityMapping

/-! ## Requests and limits -/

/-- Whether a page request was made, moved on and sorted, and is then for the `n`th page, where `n` has no largest
value. -/
inductive Pageable.Reached : Pageable → Nat → Prop
  | of {page size : UInt64} {p : Pageable} (made : of page size = .ok p) : Reached p page.toNat
  | next {p : Pageable} {n : Nat} (reached : Reached p n) : Reached p.next (n + 1)
  | sortBy {p : Pageable} {n : Nat} (reached : Reached p n) (s : SortKey) : Reached (p.sortBy s) n

/-- Whether a limit was made, of so many results from a position on. -/
inductive Limit.Made : Limit → Nat → Nat → Prop
  | of (count : UInt64) : Made (of count) 1 count.toNat
  | range {first last : UInt64} {l : Limit} (made : range first last = .ok l) :
    Made l first.toNat (last.toNat - first.toNat + 1)

namespace Pageable

variable {p : Pageable} {n : Nat}

theorem isForPage_of_of {page size : UInt64} (h : of page size = .ok p) : p.IsForPage page.toNat := by
  unfold of at h
  split at h
  · simp at h
  · next hpage =>
    split at h
    · simp at h
    · next hsize =>
      split at h
      · injection h with h
        subst h
        have hlt : page.toNat ≤ 2 ^ 64 - 1 := Nat.le_pred_of_lt page.toNat_lt
        refine ⟨(Nat.min_eq_left hlt).symm, ?_, ?_⟩
        · exact Nat.one_le_iff_ne_zero.mpr fun h0 => hpage (UInt64.toNat_inj.mp h0)
        · exact Nat.one_le_iff_ne_zero.mpr fun h0 => hsize (UInt64.toNat_inj.mp h0)
      · simp at h

/-- A request keeps the page that it is for, whatever is done with it. -/
theorem Reached.isForPage (h : p.Reached n) : p.IsForPage n := by
  induction h with
  | of made => exact isForPage_of_of made
  | next _ ih => exact ih.next
  | sortBy _ _ ih => exact ⟨ih.page, ih.pos, ih.size⟩

end Pageable

/-- What a limit computes is what it stands for. -/
theorem Limit.Made.eq {l : Limit} {first count : Nat} (h : l.Made first count) :
    l.start.toNat = first ∧ l.maxResults.toNat = count ∧ 1 ≤ first := by
  cases h with
  | of n => exact ⟨rfl, rfl, Nat.le_refl 1⟩
  | @range first last l made =>
    unfold Limit.range at made
    split at made
    · simp at made
    · next hrange =>
      injection made with made
      subst made
      obtain ⟨hfirst, hlast⟩ := not_or.mp hrange
      have hle : first ≤ last := UInt64.not_lt.mp hlast
      have hle' : first.toNat ≤ last.toNat := UInt64.le_iff_toNat_le.mp hle
      have hpos : first.toNat ≠ 0 := fun h0 => hfirst (UInt64.toNat_inj.mp h0)
      have hlt := last.toNat_lt
      have hone : (1 : UInt64).toNat = 1 := rfl
      refine ⟨rfl, ?_, Nat.one_le_iff_ne_zero.mpr hpos⟩
      rw [UInt64.toNat_add, UInt64.toNat_sub_of_le _ _ hle, hone]
      exact Nat.mod_eq_of_lt (by omega)

/-! ## Windows -/

/-- A part of a list: how many items in front of it are left out, and how many it has at most. -/
structure Window where
  skip : Nat
  limit : Option Nat

namespace Window

/-- The part of a list that is in the window. -/
def cut {α : Type} (w : Window) (results : List α) : List α :=
  match w.limit with
  | none => results.drop w.skip
  | some limit => (results.drop w.skip).take limit

/-- So many results from a position on, which is counted from 1. -/
def limited (first count : Nat) : Window := ⟨first - 1, some count⟩

/-- The `n`th page of a size, behind what a window leaves out. -/
def paged (w : Window) (n size : Nat) : Window := ⟨w.skip + (n - 1) * size, some size⟩

/-- The window that a call asks for: a limit is put in the place of the window of the query, and a request for the `n`th
page of a size pages it. -/
def ofCall (q : DocumentQuery) (limit : Option Limit) (requested : Option (Nat × Nat)) : Window :=
  let asked := limit.elim ⟨q.skip.toNat, q.limit.map UInt64.toNat⟩ fun l => limited l.start.toNat l.maxResults.toNat
  requested.elim asked fun request => asked.paged request.1 request.2

end Window

/-- Whether the number and the size of the page that is requested are these, if one is. -/
inductive Requests : Option Pageable → Option (Nat × Nat) → Prop
  | none : Requests .none .none
  | some {p : Pageable} {n : Nat} (reached : p.Reached n) : Requests (.some p) (.some (n, p.size.toNat))

namespace DocumentQuery

variable {α : Type}

theorem window_eq_cut (q : DocumentQuery) (results : List α) :
    q.window results = Window.cut ⟨q.skip.toNat, q.limit.map UInt64.toNat⟩ results := by
  cases hlimit : q.limit <;> simp [window, Window.cut, hlimit]

/-- The arguments that request no page put a limit in the place of the window. -/
theorem ofCall_withParameters (q : DocumentQuery) (special : SpecialParameters) :
    Window.ofCall (q.withParameters special) none none = Window.ofCall q special.limit none := by
  simp only [Window.ofCall, Option.elim_none, toNat_skip_withParameters, limit_withParameters]
  cases special.limit <;> rfl

/-- **What a call shows is cut out as if numbers had no end.** -/
theorem window_effective (q : DocumentQuery) {parameters : List Parameter} {requested : Option (Nat × Nat)}
    (h : Requests (findPageable parameters) requested) {results : List α} (hlength : results.length < 2 ^ 64 - 1) :
    (q.effective parameters).window results =
      (Window.ofCall q (SpecialParameters.ofList parameters).limit requested).cut results := by
  have hasked := q.ofCall_withParameters (.ofList parameters)
  unfold effective
  generalize findPageable parameters = found at h
  cases h with
  | none =>
    rw [← hasked]
    exact window_eq_cut _ results
  | @some p n reached =>
    have hpaged : Window.ofCall q (SpecialParameters.ofList parameters).limit (.some (n, p.size.toNat)) =
        (Window.ofCall q (SpecialParameters.ofList parameters).limit none).paged n p.size.toNat := rfl
    rw [hpaged, ← hasked]
    show ((q.withParameters (.ofList parameters)).paged p).window results = _
    rw [window_paged _ reached.isForPage hlength, pageOf, List.drop_drop]
    rfl

end DocumentQuery

/-! ## Calls -/

/-- How the results of a call are cut out, for a page of the given number and size if one is requested. -/
structure CutsExactly (q : DocumentQuery) (parameters : List Parameter) (requested : Option (Nat × Nat)) : Prop where
  /-- The part of any results is the one in exact numbers. -/
  results : ∀ {α : Type} (results : List α), results.length < 2 ^ 64 - 1 →
    (q.effective parameters).window results =
      (Window.ofCall q (SpecialParameters.ofList parameters).limit requested).cut results
  /-- A call hands out this part of the records that match, in the order of all sorts, if they can be sorted. -/
  calls : ∀ (m : Mapping) (method : RepositoryMethod) (type : TypeName) (s : Store),
    (s.matching q).length < 2 ^ 64 - 1 →
    (Template.ofStore m).query method type q parameters s =
      m.handOut method type (findPageable parameters)
        ((s.sorted { q with sorts := (q.effective parameters).sorts }).map
          (Window.ofCall q (SpecialParameters.ofList parameters).limit requested).cut)

namespace Template

/-- **Numbers that stay at the largest one behave like numbers without end.** -/
theorem cutsExactly :
    (∀ p n, Pageable.Reached p n →
      1 ≤ p.page ∧ 1 ≤ p.size ∧ p.page.toNat = min n (2 ^ 64 - 1) ∧ (p.page - 1).toNat = p.page.toNat - 1 ∧
        p.offset.toNat = min ((p.page.toNat - 1) * p.size.toNat) (2 ^ 64 - 1)) ∧
      (∀ l first count, Limit.Made l first count →
        1 ≤ l.start ∧ l.start.toNat = first ∧ l.maxResults.toNat = count) ∧
      ∀ q parameters requested, Requests (findPageable parameters) requested →
        CutsExactly q parameters requested := by
  refine ⟨fun p n hreached => ?_, fun l first count hmade => ?_, fun q parameters requested hrequests => ?_⟩
  · have hfor := hreached.isForPage
    have hpage : 1 ≤ p.page := UInt64.le_iff_toNat_le.mpr hfor.one_le_page
    exact ⟨hpage, UInt64.le_iff_toNat_le.mpr hfor.size, hfor.page, UInt64.toNat_sub_of_le _ _ hpage,
      p.toNat_offset hfor.one_le_page⟩
  · obtain ⟨hfirst, hcount, hpos⟩ := hmade.eq
    exact ⟨UInt64.le_iff_toNat_le.mpr (hfirst ▸ hpos), hfirst, hcount⟩
  · constructor
    case results => exact fun _ hlength => q.window_effective hrequests hlength
    case calls =>
      intro m method type s hlength
      have hsorted :
          s.sorted { q with sorts := (q.effective parameters).sorts } = s.sorted (q.effective parameters) := by
        have hmatching : s.matching (q.effective parameters) = s.matching q := by
          rw [Store.matching, q.entity_effective, q.accepts_effective]
          rfl
        rw [Store.sorted, Store.sorted, hmatching]
        rfl
      rw [query_eq_handOut]
      congr 1
      show s.select (q.effective parameters) = _
      rw [Store.select, hsorted]
      cases hrecords : s.sorted (q.effective parameters) with
      | error e => rfl
      | ok records =>
        refine congrArg Except.ok (q.window_effective hrequests ?_)
        rw [← hsorted] at hrecords
        rw [(Store.perm_of_sorted hrecords).length_eq]
        exact hlength

/-- The second token, in the order of the keys, of those from the second one on. -/
def secondPage : Pageable := (Pageable.next ⟨1, 1, []⟩).sortBy ⟨"_id", .asc⟩

/-- A page whose number does not fit. -/
def pagePastLargest : Pageable := Pageable.next ⟨largest, 1, []⟩

/-- The second of the tokens from the second one to the fourth, and the page behind the last one that has a number. -/
theorem cutsExactly_tokens :
    secondPage.Reached 2 ∧ pagePastLargest.Reached (2 ^ 64) ∧ pagePastLargest.page = largest ∧
      Limit.Made ⟨2, 3⟩ 2 3 ∧ (tokenStore.matching (.select "Token")).length < 2 ^ 64 - 1 ∧
      (1 ≤ pagePastLargest.page ∧ pagePastLargest.offset.toNat = 2 ^ 64 - 2) ∧ (1 : UInt64) ≤ 2 ∧
      (ofStore tokenMapping).query ⟨"Tokens", "second", .list⟩ "Token" (.select "Token")
          [.limit ⟨2, 3⟩, .pageable secondPage] tokenStore =
        tokenMapping.handOut ⟨"Tokens", "second", .list⟩ "Token" (some secondPage) (.ok [tokenRecord "c"]) ∧
      (DocumentQuery.effective ⟨"Token", none, 1, none, []⟩ [.pageable pagePastLargest]).window [1, 2, 3] = [] := by
  have hfirst : Pageable.of 1 1 = .ok ⟨1, 1, []⟩ := rfl
  have hlargest : Pageable.of largest 1 = .ok ⟨largest, 1, []⟩ := rfl
  have hrange : Limit.range 2 4 = .ok ⟨2, 3⟩ := rfl
  have hsecond : secondPage.Reached 2 := ((Pageable.Reached.of hfirst).next).sortBy _
  have hpast : pagePastLargest.Reached (2 ^ 64) := (Pageable.Reached.of hlargest).next
  have hlimit : Limit.Made ⟨2, 3⟩ 2 3 := .range hrange
  have hlength : (tokenStore.matching (.select "Token")).length < 2 ^ 64 - 1 := by decide
  obtain ⟨hpages, hlimits, hcuts⟩ := cutsExactly
  obtain ⟨hpage, -, -, -, hoffset⟩ := hpages pagePastLargest (2 ^ 64) hpast
  refine ⟨hsecond, hpast, rfl, hlimit, hlength, ⟨hpage, hoffset⟩, (hlimits _ _ _ hlimit).1, ?_, ?_⟩
  · rw [(hcuts (.select "Token") [.limit ⟨2, 3⟩, .pageable secondPage] _ (.some hsecond)).calls tokenMapping _ "Token"
      tokenStore hlength]
    congr 1
  · exact (hcuts _ [.pageable pagePastLargest] _ (.some hpast)).results [1, 2, 3] (by decide)

end Template
end EntityMapping
