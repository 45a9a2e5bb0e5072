import EntityMapping.Proofs.Store.Sorting
import EntityMapping.Proofs.Template.Rows
import EntityMapping.Proofs.Workflow.Trace

/-!
# Page after page

Each page of a query is selected and sorted on its own. The pages fit together all the same, as long as the store stays
as it is and its records can be sorted: asking for one page after the other gives all results, each one once and in
their order.

* `Store.select_paged_iterate_unlimited` — the rows of one page after the other
* `Template.Follow` — pages that are asked for one after the other
* `Template.pages_visit_list` — what they hold
-/

namespace EntityMapping

/-! ## The queries for pages -/

namespace DocumentQuery

/-- A query without arguments is the query itself. -/
theorem effective_nil (q : DocumentQuery) : q.effective [] = q := by
  simp [effective, findPageable, withParameters, SpecialParameters.ofList, SpecialParameters.empty]

/-- Without a limit among the arguments, a page request is one for a page of the query that has all the sorts. -/
theorem effective_of_pageable (q : DocumentQuery) {before after : List Parameter}
    (hbefore : ∀ p, .pageable p ∉ before) (hlimit : ∀ l, .limit l ∉ before ++ after) (p : Pageable) :
    q.effective (before ++ .pageable p :: after) =
      paged { q with sorts := q.sorts ++ (before ++ after).flatMap Parameter.sortKeys } p := by
  rw [effective_insert q hbefore, withParameters, SpecialParameters.limit_ofList_of_not_mem hlimit,
    SpecialParameters.sorts_ofList]

/-- The query without its limit. -/
def unlimited (q : DocumentQuery) : DocumentQuery := { q with limit := none }

theorem unlimited_of_limit {q : DocumentQuery} (h : q.limit = none) : q.unlimited = q := by
  rw [unlimited, ← h]

end DocumentQuery

namespace Store

/-- The rows of a first page and of those behind it are the pages of the rows of the query that is neither paged nor
limited. -/
theorem select_paged_iterate_unlimited (s : Store) (q : DocumentQuery) {p : Pageable} (hpage : p.page = 1)
    (hsize : 1 ≤ p.size) (hlength : (s.matching q).length < 2 ^ 64 - 1) (k : Nat) :
    s.select (q.paged (Pageable.next^[k] p)) =
      (s.select { q.unlimited with sorts := q.sorts ++ p.sorts }).map (pageOf p.size.toNat k) := by
  have hsorts : (q.paged (Pageable.next^[k] p)).sorts = q.sorts ++ p.sorts := by
    rw [DocumentQuery.paged, Pageable.sorts_iterate_next]
  -- the two queries have the same records in the same order, and cut them
  have hsorted : s.sorted (q.paged (Pageable.next^[k] p)) =
      s.sorted { q.unlimited with sorts := q.sorts ++ p.sorts } := by
    rw [sorted, hsorts]
    rfl
  rw [select, select, hsorted]
  cases hrecords : s.sorted { q.unlimited with sorts := q.sorts ++ p.sorts } with
  | error e => rfl
  | ok records =>
    have hall : records.length < 2 ^ 64 - 1 := by
      rw [(perm_of_sorted hrecords).length_eq]
      exact hlength
    exact congrArg Except.ok (q.window_paged_iterate hpage hsize hall k)

theorem select_paged_iterate (s : Store) (q : DocumentQuery) (hlimit : q.limit = none) {p : Pageable}
    (hpage : p.page = 1) (hsize : 1 ≤ p.size) (hlength : (s.matching q).length < 2 ^ 64 - 1) (k : Nat) :
    s.select (q.paged (Pageable.next^[k] p)) =
      (s.select { q with sorts := q.sorts ++ p.sorts }).map (pageOf p.size.toNat k) := by
  rw [s.select_paged_iterate_unlimited q hpage hsize hlength k, DocumentQuery.unlimited_of_limit hlimit]

end Store

/-! ## Pages of entities -/

/-- A page of a list is converted to the page of what the list is converted to. -/
theorem forall₂_pageOf {α β : Type} {R : α → β → Prop} {as : List α} {bs : List β} (h : List.Forall₂ R as bs)
    (size k : Nat) : List.Forall₂ R (pageOf size k as) (pageOf size k bs) :=
  List.forall₂_take size (List.forall₂_drop (k * size) h)

namespace Template

/-- The entities that records are converted to are those that they are converted to one by one. -/
theorem result_select {σ : Type} {m : Template σ} {type : TypeName} {q : DocumentQuery} {s : σ}
    {rows : List Record} (h : m.manager.select q s = .ok rows) :
    (m.select type q s).result = rows.mapM fun r => (m.mapping.converter.read type r).result := by
  simp only [select, h, Traced.result_bind, Traced.result_lift, Traced.result_mapM, Mapping.load,
    Observers.result_relay]
  rfl

/-- A search for entities that succeeds has found records that are converted to them. -/
theorem exists_rows_of_select {σ : Type} {m : Template σ} {type : TypeName} {q : DocumentQuery} {s : σ}
    {objects : List Object} (h : (m.select type q s).result = .ok objects) :
    ∃ rows, m.manager.select q s = .ok rows ∧
      List.Forall₂ (fun r o => (m.mapping.converter.read type r).result = .ok o) rows objects := by
  cases hrows : m.manager.select q s with
  | error e =>
    rw [select_of_error hrows] at h
    cases h
  | ok rows => exact ⟨rows, rfl, mapM_eq_ok.mp ((result_select hrows).symm.trans h)⟩

/-- Whether pages are what is answered when one page after the other is asked for: each request but the first one is
that for the page behind. -/
structure Follow (ask : Pageable → Mapping.Answer (RepositoryReturn Found Object)) (first : Pageable)
    (pages : Nat → Page Object) : Prop where
  first : (ask first).result = .ok (.page (pages 0))
  next : ∀ k, (ask (pages k).nextPageable).result = .ok (.page (pages (k + 1)))

/-- Pages follow each other if each of them is the answer to a request and knows it. -/
theorem Follow.of_iterate {ask : Pageable → Mapping.Answer (RepositoryReturn Found Object)} {first : Pageable}
    {content : Nat → List Object}
    (h : ∀ k, (ask (Pageable.next^[k] first)).result = .ok (.page ⟨content k, Pageable.next^[k] first⟩)) :
    Follow ask first fun k => ⟨content k, Pageable.next^[k] first⟩ where
  first := h 0
  next k := by
    have hnext := h (k + 1)
    rw [Function.iterate_succ_apply'] at hnext
    rw [Function.iterate_succ_apply']
    exact hnext

/-- Whether asking for one page after the other gives some objects, each one once and in their order: there are first
pages that have content, of which only the last one may not be full, and the pages behind them have none. -/
def VisitsAll (ask : Pageable → Mapping.Answer (RepositoryReturn Found Object)) (first : Pageable)
    (size : Nat) (objects : List Object) : Prop :=
  ∃ pages n, Follow ask first pages ∧ ((List.range n).flatMap fun k => (pages k).content) = objects ∧
    (∀ k < n, (pages k).hasContent = true) ∧ (∀ k, k + 1 < n → (pages k).size = size) ∧
    ∀ k, n ≤ k → (pages k).content = []

variable {m : Mapping} {repository name : String} {type : TypeName} {q : DocumentQuery} {s : Store}
  {parameters : List Parameter} {rows : List Record} {objects : List Object}

/-- A list holds what its rows are converted to. -/
theorem result_query_list (hrows : s.select (q.effective parameters) = .ok rows)
    (h : List.Forall₂ (fun r o => (m.converter.read type r).result = .ok o) rows objects) :
    ((ofStore m).query ⟨repository, name, .list⟩ type q parameters s).result = .ok (.list objects) := by
  have hselect : ((ofStore m).select type (q.effective parameters) s).result = .ok objects :=
    (result_select hrows).trans (mapM_eq_ok.mpr h)
  rw [query_eq]
  simp only [map_eq_pure_bind, Traced.result_bind, hselect]
  rfl

/-- A page holds what its rows are converted to. -/
theorem result_query_page {p : Pageable} (hp : findPageable parameters = some p)
    (hrows : s.select (q.effective parameters) = .ok rows)
    (h : List.Forall₂ (fun r o => (m.converter.read type r).result = .ok o) rows objects) :
    ((ofStore m).query ⟨repository, name, .page⟩ type q parameters s).result = .ok (.page ⟨objects, p⟩) := by
  have hselect : ((ofStore m).select type (q.effective parameters) s).result = .ok objects :=
    (result_select hrows).trans (mapM_eq_ok.mpr h)
  rw [query_eq]
  simp only [hp, map_eq_pure_bind, Traced.result_bind, hselect]
  rfl

/-- **Asking for one page after the other gives all results of a query, each one once and in their order, if they can be
sorted.** The arguments of the calls have no limit, and the page request is the first one among them. No list in memory
is as long as the numbers of results go. -/
theorem pages_visit_list (m : Mapping) (repository name : String) (type : TypeName) (q : DocumentQuery)
    (before after : List Parameter) (size : UInt64) (sorts : List SortKey) (s : Store) (hlimit : q.limit = none)
    (hsize : 1 ≤ size) (hbefore : ∀ p, .pageable p ∉ before) (hnone : ∀ l, .limit l ∉ before ++ after)
    (hlength : (s.matching q).length < 2 ^ 64 - 1)
    (hsortable : Sortable (q.sorts ++ (before ++ after).flatMap Parameter.sortKeys ++ sorts) (s.matching q))
    (hconvert : ∀ r ∈ s.collection q.entity, q.accepts r = true → (m.converter.read type r).result.isOk = true) :
    ∃ first objects, Pageable.of 1 size = .ok first ∧
      ((ofStore m).query ⟨repository, name, .list⟩ type
          { q with sorts := q.sorts ++ (before ++ after).flatMap Parameter.sortKeys ++ sorts } [] s).result =
        .ok (.list objects) ∧
      VisitsAll (fun p => (ofStore m).query ⟨repository, name, .page⟩ type q (before ++ .pageable p :: after) s)
        (sorts.foldl Pageable.sortBy first) size.toNat objects := by
  have hpos : 0 < size.toNat := UInt64.le_iff_toNat_le.mp hsize
  let q' : DocumentQuery := { q with sorts := q.sorts ++ (before ++ after).flatMap Parameter.sortKeys }
  let p : Pageable := ⟨1, size, sorts⟩
  have hp : sorts.foldl Pageable.sortBy ⟨1, size, []⟩ = p := Pageable.foldl_sortBy _ sorts
  obtain ⟨rows, hrows⟩ : ∃ rows, s.select { q' with sorts := q'.sorts ++ sorts } = .ok rows :=
    ⟨_, Store.select_eq_ok_iff.mpr ⟨hsortable, rfl⟩⟩
  obtain ⟨objects, hobjects⟩ : ∃ objects,
      List.Forall₂ (fun r o => (m.converter.read type r).result = .ok o) rows objects := by
    refine exists_forall₂ fun r hr => ?_
    obtain ⟨hmem, haccepts⟩ := Store.mem_of_mem_select hrows hr
    exact exists_of_isOk (hconvert r hmem haccepts)
  have hask (k : Nat) :
      ((ofStore m).query ⟨repository, name, .page⟩ type q
          (before ++ .pageable (Pageable.next^[k] p) :: after) s).result =
        .ok (.page ⟨pageOf size.toNat k objects, Pageable.next^[k] p⟩) := by
    have hpage : s.select (q.effective (before ++ .pageable (Pageable.next^[k] p) :: after)) =
        .ok (pageOf size.toNat k rows) := by
      rw [q.effective_of_pageable hbefore hnone, s.select_paged_iterate q' hlimit (p := p) rfl hsize hlength k, hrows]
      rfl
    exact result_query_page (findPageable_eq_some_iff.mpr ⟨before, after, rfl, hbefore⟩) hpage
      (forall₂_pageOf hobjects size.toNat k)
  refine ⟨⟨1, size, []⟩, objects, Pageable.of_one hsize, ?_,
    fun k => ⟨pageOf size.toNat k objects, Pageable.next^[k] p⟩, pageCount size.toNat objects, ?_,
    flatMap_pageOf_pageCount hpos, fun k hk => ?_, fun k hk => length_pageOf_of_lt hpos hk,
    fun k hk => pageOf_eq_nil hpos hk⟩
  · refine result_query_list ?_ hobjects
    rw [DocumentQuery.effective_nil]
    exact hrows
  · rw [hp]
    exact .of_iterate hask
  · simpa [Page.hasContent] using pageOf_ne_nil hpos hk

/-- The record of a token with this key. -/
def tokenRecord (key : String) : Record := ⟨"Token", [("_id", .text key), ("user", .text "ada")]⟩

/-- A store with four tokens. -/
def tokenStore : Store := ⟨"_id", 1, [("Token", ["c", "a", "d", "b"].map tokenRecord)]⟩

/-- The tokens behind the first one in the order of their keys, two on a page. -/
theorem pages_visit_list_tokens :
    (∀ r ∈ tokenStore.collection "Token", (tokenMapping.converter.read "Token" r).result.isOk = true) ∧
      ∃ first objects, Pageable.of 1 2 = .ok first ∧
        ((ofStore tokenMapping).query ⟨"Tokens", "behind", .list⟩ "Token"
            ⟨"Token", none, 1, none, [⟨"user", .asc⟩, ⟨"_id", .asc⟩]⟩ [] tokenStore).result = .ok (.list objects) ∧
        VisitsAll
          (fun p => (ofStore tokenMapping).query ⟨"Tokens", "behind", .page⟩ "Token"
            ⟨"Token", none, 1, none, []⟩ [.sort ⟨"user", .asc⟩, .pageable p, .other] tokenStore)
          ([⟨"_id", .asc⟩].foldl Pageable.sortBy first) 2 objects := by
  have hconvert : ∀ r ∈ tokenStore.collection "Token",
      (tokenMapping.converter.read "Token" r).result.isOk = true := by
    intro r hr
    obtain ⟨key, -, rfl⟩ : ∃ key ∈ ["c", "a", "d", "b"], tokenRecord key = r := List.mem_map.mp hr
    cbv
  exact ⟨hconvert, pages_visit_list tokenMapping "Tokens" "behind" "Token" ⟨"Token", none, 1, none, []⟩
    [.sort ⟨"user", .asc⟩] [.other] 2 [⟨"_id", .asc⟩] tokenStore rfl (by decide) (by simp) (by simp) (by decide)
    (.inl (by decide)) fun r hr _ => hconvert r hr⟩

end Template
end EntityMapping
