import EntityMapping.Proofs.Store.SortKeys
import EntityMapping.Proofs.Template.Paging

/-!
# Precedence of sorts

The sorts of a call come from the query, from its page request and from arguments of their own. The sorts of the query
come first. Of the others, those of the page request come first when the arguments are asked for all their sorts, but
last when the call is answered.

* `DocumentQuery.effective_sorts` — the sorts by which a call is answered
* `Store.KeepsPrecedence` — whether calls with some sorts are answered as if the page request came first
* `Template.keepsPrecedence_iff` — when this is so
-/

namespace EntityMapping

/-! ## The sorts of a call -/

/-- The sorts of the page request. -/
def SpecialParameters.pageSorts (special : SpecialParameters) : List SortKey :=
  (special.pageable.map Pageable.sorts).getD []

theorem SpecialParameters.allSorts_eq (special : SpecialParameters) :
    special.allSorts = special.pageSorts ++ special.sorts := rfl

namespace DocumentQuery

/-- The query that answers a call, sorted by all sorts of the arguments in the order in which these have them. -/
def byAllSorts (q : DocumentQuery) (parameters : List Parameter) : DocumentQuery :=
  { q.effective parameters with sorts := q.sorts ++ (SpecialParameters.ofList parameters).allSorts }

/-- A call is answered by the sorts of the query, then those that stand alone, then those of the page request. -/
theorem effective_sorts (q : DocumentQuery) (parameters : List Parameter) :
    (q.effective parameters).sorts =
      q.sorts ++ (SpecialParameters.ofList parameters).sorts ++ (SpecialParameters.ofList parameters).pageSorts := by
  rw [(q.asks_effective parameters).sorts, SpecialParameters.sorts_ofList, SpecialParameters.pageSorts,
    ← findPageable_eq]
  cases findPageable parameters <;> rfl

end DocumentQuery

namespace Store

/-- Whether calls with these sorts, of the query, of the page request and standing alone, find what the query finds when
the sorts of the page request come before those that stand alone. -/
def KeepsPrecedence (s : Store) (own page standalone : List SortKey) : Prop :=
  ∀ (q : DocumentQuery) (parameters : List Parameter), q.sorts = own →
    (SpecialParameters.ofList parameters).pageSorts = page → (SpecialParameters.ofList parameters).sorts = standalone →
    s.select (q.effective parameters) = s.select (q.byAllSorts parameters)

variable {own page standalone : List SortKey}

theorem keepsPrecedence_of_deciding (s : Store)
    (h : SortKey.deciding (own ++ standalone ++ page) = SortKey.deciding (own ++ page ++ standalone)) :
    s.KeepsPrecedence own page standalone := by
  rintro q parameters rfl rfl rfl
  have hsorts := sortRecords?_of_deciding h (s.matching (q.effective parameters))
  rw [← q.effective_sorts, List.append_assoc, ← SpecialParameters.allSorts_eq] at hsorts
  have hsorted : s.sorted (q.effective parameters) = s.sorted (q.byAllSorts parameters) := by
    rw [sorted, hsorts]
    rfl
  -- the window does not depend on the sorts
  exact congrArg (Except.map (q.effective parameters).window) hsorted

/-- A call for a page of two that has all three kinds of sorts. -/
theorem select_item_page (s : Store) (own page standalone : List SortKey) {a b : Record}
    (h : s.collection "Item" = [a, b]) :
    s.select (DocumentQuery.effective ⟨"Item", none, 0, none, own⟩ [.pageable ⟨1, 2, page⟩, .sorts standalone]) =
        .ok (sortRecords (own ++ standalone ++ page) [a, b]) ∧
      s.select (DocumentQuery.byAllSorts ⟨"Item", none, 0, none, own⟩ [.pageable ⟨1, 2, page⟩, .sorts standalone]) =
        .ok (sortRecords (own ++ page ++ standalone) [a, b]) := by
  have hskip : addWithin 0 (Pageable.offset ⟨1, 2, page⟩) = 0 := by
    show addWithin 0 (mulWithin (1 - 1) 2) = 0
    decide
  have hwindow (sorts : List SortKey) :
      DocumentQuery.window ⟨"Item", none, addWithin 0 (Pageable.offset ⟨1, 2, page⟩), some 2, sorts⟩
        (sortRecords sorts [a, b]) = sortRecords sorts [a, b] := by
    refine (DocumentQuery.window_eq_self_iff _ _).mpr (.inr ⟨hskip, ?_⟩)
    intro limit hlimit
    obtain rfl : (2 : UInt64) = limit := Option.some.inj hlimit
    exact (perm_sortRecords sorts [a, b]).length_eq.le
  have hselect (sorts : List SortKey) :
      s.select ⟨"Item", none, addWithin 0 (Pageable.offset ⟨1, 2, page⟩), some 2, sorts⟩ =
        .ok (sortRecords sorts [a, b]) := by
    have hmatching : s.matching ⟨"Item", none, addWithin 0 (Pageable.offset ⟨1, 2, page⟩), some 2, sorts⟩ = [a, b] := by
      rw [matching, h]
      simp [DocumentQuery.accepts]
    rw [select_eq_ok_iff, hmatching]
    exact ⟨.inl (by simp [insertionLimit]), hwindow sorts⟩
  constructor
  · exact hselect (own ++ standalone ++ page)
  · rw [List.append_assoc]
    exact hselect (own ++ (page ++ standalone))

/-- Two items on one page show how they compare. -/
theorem compareRecords_lt_iff_of_keepsPrecedence
    (h : ∀ idField calls, ((empty idField 1).run calls).KeepsPrecedence own page standalone) (a b : Record) :
    compareRecords b a (own ++ standalone ++ page) = .lt ↔ compareRecords b a (own ++ page ++ standalone) = .lt := by
  obtain ⟨idField, calls, a', b', hne, hcollection, hcompare⟩ := exists_pair a b (own ++ standalone ++ page)
  have hcompare' : ∀ k ∈ own ++ page ++ standalone, compareUnder k.property b' a' = compareUnder k.property b a := by
    intro k hk
    apply hcompare
    simp only [List.mem_append] at hk ⊢
    tauto
  have hsame := h idField calls ⟨"Item", none, 0, none, own⟩ [.pageable ⟨1, 2, page⟩, .sorts standalone] rfl rfl rfl
  obtain ⟨heffective, hclaimed⟩ := select_item_page _ own page standalone hcollection
  rw [heffective, hclaimed] at hsame
  rw [← compareRecords_congr hcompare, ← compareRecords_congr hcompare']
  exact compareRecords_lt_iff_of_sortRecords hne (Except.ok.inj hsame)

theorem deciding_eq_of_keepsPrecedence
    (h : ∀ idField calls, ((empty idField 1).run calls).KeepsPrecedence own page standalone) :
    SortKey.deciding (own ++ standalone ++ page) = SortKey.deciding (own ++ page ++ standalone) := by
  apply SortKey.deciding_eq_iff.mpr
  apply compareRecords_eq_of_lt_iff
  intro b a
  exact compareRecords_lt_iff_of_keepsPrecedence h a b

end Store

/-! ## Calls -/

namespace Template

/-- **A call hands out the rows of its query, or ends like the search for them. For all stores these are what the query
finds when the sorts of the page request come before those that stand alone exactly if the sorts that decide are the
same in both orders.** -/
theorem keepsPrecedence_iff (m : Mapping) (type : TypeName) (own page standalone : List SortKey) :
    (∀ method q parameters s, (ofStore m).query method type q parameters s =
        m.handOut method type (findPageable parameters) (s.select (q.effective parameters))) ∧
      ((∀ idField start calls, ((Store.empty idField start).run calls).KeepsPrecedence own page standalone) ↔
        SortKey.deciding (own ++ standalone ++ page) = SortKey.deciding (own ++ page ++ standalone)) := by
  refine ⟨?_, ?_, ?_⟩
  · intro method q parameters s
    exact query_eq_handOut _ method type q parameters s
  · intro h
    exact Store.deciding_eq_of_keepsPrecedence fun idField => h idField 1
  · intro h idField start calls
    exact Store.keepsPrecedence_of_deciding _ h

/-- The arguments of a call for the first two tokens in the order of their keys, with a sort in the other direction that
stands alone. -/
def firstTokens : List Parameter := [.pageable ⟨1, 2, [⟨"_id", .asc⟩]⟩, .sort ⟨"_id", .desc⟩]

/-- The sort that stands alone takes precedence over that of the page request. -/
theorem standalone_sort_first :
    (SpecialParameters.ofList firstTokens).allSorts = [⟨"_id", .asc⟩, ⟨"_id", .desc⟩] ∧
      ((ofStore tokenMapping).query ⟨"Tokens", "all", .list⟩ "Token"
          ⟨"Token", none, 0, some 2, [⟨"_id", .asc⟩, ⟨"_id", .desc⟩]⟩ [] tokenStore).result =
        .ok (.list [token (some "a"), token (some "b")]) ∧
      ((ofStore tokenMapping).query ⟨"Tokens", "all", .list⟩ "Token" (.select "Token") firstTokens tokenStore).result =
        .ok (.list [token (some "d"), token (some "c")]) ∧
      tokenStore = (Store.empty "_id" 1).run (["c", "a", "d", "b"].map fun key => .insert (tokenRecord key)) ∧
      ¬ tokenStore.KeepsPrecedence [] [⟨"_id", .asc⟩] [⟨"_id", .desc⟩] := by
  refine ⟨by cbv, by cbv, by cbv, by cbv, ?_⟩
  intro hkeeps
  have hsame := hkeeps (.select "Token") firstTokens rfl rfl rfl
  have hrows : tokenStore.select (DocumentQuery.effective (.select "Token") firstTokens) =
      .ok (["d", "c"].map tokenRecord) := by cbv
  have hclaimed : tokenStore.select (DocumentQuery.byAllSorts (.select "Token") firstTokens) =
      .ok (["a", "b"].map tokenRecord) := by cbv
  rw [hrows, hclaimed] at hsame
  simp [tokenRecord] at hsame

end Template
end EntityMapping
