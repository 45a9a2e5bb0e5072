import EntityMapping.Proofs.Template.Paging

/-!
# Pages of a query that has a limit

A page request brings a limit of its own, the size of the page, in the place of the limit that the query has from
itself or from the arguments of the call. So the pages are those of the query without a limit. They stay within what
the query shows without the page request only when its limit cuts nothing off. If the records cannot be sorted there are
neither rows nor pages.

* `PagesStayWithin` — pages of some rows, and nothing else
* `Store.pagesStayWithin_unlimited` — the rows that the pages of a query visit
* `Template.pagesStayWithin_iff` — when these are the rows that the call has without the page request
-/

namespace EntityMapping

/-- Whether pages have the rows of a window and no others, where `find p` searches for the rows of a page. -/
structure PagesStayWithin (find : Pageable → Except MapError (List Record)) (window : List Record) : Prop where
  /-- No page has a row that is not in the window. -/
  inside : ∀ p, p.sorts = [] → ∃ rows, find p = .ok rows ∧ rows ⊆ window
  /-- The pages behind each other are those of the window, until there is nothing left. -/
  visited : ∀ size, 1 ≤ size → ∃ (pages : Nat → List Record) (n : Nat),
    (∀ k, find (Pageable.next^[k] ⟨1, size, []⟩) = .ok (pages k)) ∧ (List.range n).flatMap pages = window ∧
      ∀ k, n ≤ k → pages k = []

/-- The pages behind each other have the rows of one window only. -/
theorem PagesStayWithin.unique {find : Pageable → Except MapError (List Record)} {window window' : List Record}
    (h : PagesStayWithin find window) (h' : PagesStayWithin find window') : window = window' := by
  obtain ⟨page, n, hpage, hwindow, hend⟩ := h.visited 1 (by decide)
  obtain ⟨page', n', hpage', hwindow', hend'⟩ := h'.visited 1 (by decide)
  obtain rfl : page = page' := funext fun k => Except.ok.inj ((hpage k).symm.trans (hpage' k))
  calc window = (List.range n).flatMap page := hwindow.symm
    _ = (List.range (n + n')).flatMap page := (flatMap_range_add hend n').symm
    _ = (List.range (n' + n)).flatMap page := by rw [Nat.add_comm]
    _ = (List.range n').flatMap page := flatMap_range_add hend' n
    _ = window' := hwindow'

/-! ## Windows -/

namespace DocumentQuery

variable {α : Type}

/-- A limit cuts nothing off if there are not more results without it. -/
theorem window_eq_unlimited_iff (q : DocumentQuery) (results : List α) :
    q.unlimited.window results = q.window results ↔
      ∀ limit, q.limit = some limit → (q.unlimited.window results).length ≤ limit.toNat := by
  rw [eq_comm]
  cases hlimit : q.limit with
  | none => simp [window, unlimited, hlimit]
  | some limit => simp [window, unlimited, hlimit, List.take_eq_self_iff]

/-- A page of a query has only results that the query has without its limit. -/
theorem window_paged_sublist (q : DocumentQuery) (p : Pageable) (results : List α) :
    ((q.paged p).window results).Sublist (q.unlimited.window results) := by
  have hskip : q.skip.toNat ≤ (addWithin q.skip p.offset).toNat := by
    have hlt := q.skip.toNat_lt
    rw [toNat_addWithin]
    omega
  exact (List.take_sublist _ _).trans (List.drop_sublist_drop_left _ hskip)

end DocumentQuery

namespace Store

variable {s : Store} {q : DocumentQuery} {all : List Record}

/-- The rows of a query are all that it finds without its limit exactly if there are not more of them. -/
theorem select_eq_iff_of_unlimited (h : s.select q.unlimited = .ok all) :
    s.select q = .ok all ↔ ∀ limit, q.limit = some limit → all.length ≤ limit.toNat := by
  obtain ⟨hsortable, rfl⟩ := select_eq_ok_iff.mp h
  rw [select_eq_ok_iff]
  constructor
  · rintro ⟨-, hwindow⟩
    exact (q.window_eq_unlimited_iff _).mp hwindow.symm
  · intro hlimit
    exact ⟨hsortable, ((q.window_eq_unlimited_iff _).mpr hlimit).symm⟩

/-- **The pages of a query have the rows that it finds without its limit.** -/
theorem pagesStayWithin_unlimited (hlength : (s.matching q).length < 2 ^ 64 - 1) (h : s.select q.unlimited = .ok all) :
    PagesStayWithin (fun p => s.select (q.paged p)) all where
  inside p hp := by
    have hsorts : (q.paged p).sorts = q.sorts := by rw [DocumentQuery.paged, hp, List.append_nil]
    obtain ⟨hsortable, rfl⟩ := select_eq_ok_iff.mp h
    refine ⟨(q.paged p).window (sortRecords q.sorts (s.matching q)), ?_, (q.window_paged_sublist p _).subset⟩
    rw [select_eq_ok_iff, hsorts]
    exact ⟨hsortable, rfl⟩
  visited size hsize := by
    have hpos : 0 < size.toNat := UInt64.le_iff_toNat_le.mp hsize
    refine ⟨fun k => pageOf size.toNat k all, pageCount size.toNat all, fun k => ?_, flatMap_pageOf_pageCount hpos,
      fun k hk => pageOf_eq_nil hpos hk⟩
    rw [s.select_paged_iterate_unlimited q (p := ⟨1, size, []⟩) rfl hsize hlength k, List.append_nil]
    exact congrArg (Except.map (pageOf size.toNat k)) h

end Store

/-! ## Calls -/

namespace Template

/-- **The pages that a call asks for stay within the rows that it has without the page request exactly if its records
can be sorted and the limit of the query, or of the other arguments, cuts nothing off.** -/
theorem pagesStayWithin_iff (m : Mapping) (type : TypeName) (q : DocumentQuery) (before after : List Parameter)
    (s : Store) (hnone : ∀ p, .pageable p ∉ before ++ after) (hlength : (s.matching q).length < 2 ^ 64 - 1) :
    (∀ method parameters, (ofStore m).query method type q parameters s =
        m.handOut method type (findPageable parameters) (s.select (q.effective parameters))) ∧
      ((∃ window, s.select (q.effective (before ++ after)) = .ok window ∧
          PagesStayWithin (fun p => s.select (q.effective (before ++ .pageable p :: after))) window) ↔
        ∃ all, s.select (q.effective (before ++ after)).unlimited = .ok all ∧
          ∀ limit, (q.effective (before ++ after)).limit = some limit → all.length ≤ limit.toNat) := by
  have hbefore : ∀ p, .pageable p ∉ before := by
    intro p hp
    exact hnone p (List.mem_append_left _ hp)
  have hmatching : (s.matching (q.effective (before ++ after))).length < 2 ^ 64 - 1 := by
    rw [Store.matching, q.entity_effective, q.accepts_effective]
    exact hlength
  refine ⟨?_, ?_⟩
  · intro method parameters
    exact query_eq_handOut _ method type q parameters s
  · simp only [q.effective_insert hbefore]
    rw [q.effective_of_not_mem hnone] at hmatching ⊢
    constructor
    · rintro ⟨window, hwindow, hwithin⟩
      obtain ⟨hsortable, -⟩ := Store.select_eq_ok_iff.mp hwindow
      obtain ⟨all, hall⟩ : ∃ all, s.select (q.withParameters (.ofList (before ++ after))).unlimited = .ok all :=
        ⟨_, Store.select_eq_ok_iff.mpr ⟨hsortable, rfl⟩⟩
      have hpages := Store.pagesStayWithin_unlimited hmatching hall
      rw [hwithin.unique hpages] at hwindow
      exact ⟨_, hall, (Store.select_eq_iff_of_unlimited hall).mp hwindow⟩
    · rintro ⟨all, hall, hlimit⟩
      exact ⟨all, (Store.select_eq_iff_of_unlimited hall).mpr hlimit, Store.pagesStayWithin_unlimited hmatching hall⟩

/-- The three tokens behind the first one, which are all that there are, in the order of their keys. -/
theorem pagesStayWithin_tokens :
    (∀ p, .pageable p ∉ [Parameter.sort ⟨"_id", .asc⟩] ++ [.other]) ∧
      (tokenStore.matching ⟨"Token", none, 1, some 3, []⟩).length < 2 ^ 64 - 1 ∧
      tokenStore.select (DocumentQuery.effective ⟨"Token", none, 1, some 3, []⟩ [.sort ⟨"_id", .asc⟩, .other]) =
        .ok (["b", "c", "d"].map tokenRecord) ∧
      PagesStayWithin
        (fun p => tokenStore.select (DocumentQuery.effective ⟨"Token", none, 1, some 3, []⟩
          [.sort ⟨"_id", .asc⟩, .pageable p, .other]))
        (["b", "c", "d"].map tokenRecord) := by
  have hnone : ∀ p, .pageable p ∉ [Parameter.sort ⟨"_id", .asc⟩] ++ [.other] := by simp
  have hlength : (tokenStore.matching ⟨"Token", none, 1, some 3, []⟩).length < 2 ^ 64 - 1 := by decide
  have hrows : tokenStore.select
      (DocumentQuery.effective ⟨"Token", none, 1, some 3, []⟩ [.sort ⟨"_id", .asc⟩, .other]) =
        .ok (["b", "c", "d"].map tokenRecord) := by cbv
  have hall : tokenStore.select
      (DocumentQuery.effective ⟨"Token", none, 1, some 3, []⟩ [.sort ⟨"_id", .asc⟩, .other]).unlimited =
        .ok (["b", "c", "d"].map tokenRecord) := by cbv
  obtain ⟨window, hwindow, hwithin⟩ := (pagesStayWithin_iff tokenMapping "Token" ⟨"Token", none, 1, some 3, []⟩
    [.sort ⟨"_id", .asc⟩] [.other] tokenStore hnone hlength).2.mpr ⟨_, hall, fun limit hlimit => by
      obtain rfl : (3 : UInt64) = limit := Option.some.inj hlimit
      decide⟩
  obtain rfl := Except.ok.inj (hrows.symm.trans hwindow)
  exact ⟨hnone, hlength, hrows, hwithin⟩

/-- The query for the first token in the order of the insertion. -/
def firstToken : DocumentQuery := ⟨"Token", none, 0, some 1, []⟩

/-- Of the first token alone, a page of two has two. -/
theorem page_passes_limit :
    ((ofStore tokenMapping).query ⟨"Tokens", "first", .list⟩ "Token" firstToken [] tokenStore).result =
        .ok (.list [token (some "c")]) ∧
      ((ofStore tokenMapping).query ⟨"Tokens", "first", .page⟩ "Token" firstToken [.pageable ⟨1, 2, []⟩]
          tokenStore).result = .ok (.page ⟨[token (some "c"), token (some "a")], ⟨1, 2, []⟩⟩) ∧
      ¬ ∃ window, tokenStore.select (firstToken.effective []) = .ok window ∧
        PagesStayWithin (fun p => tokenStore.select (firstToken.effective [.pageable p])) window := by
  refine ⟨by cbv, by cbv, ?_⟩
  rintro ⟨window, hwindow, hwithin⟩
  obtain ⟨page, hpage, hinside⟩ := hwithin.inside ⟨1, 2, []⟩ rfl
  have hrows : tokenStore.select (firstToken.effective []) = .ok (["c"].map tokenRecord) := by cbv
  have hfound : tokenStore.select (firstToken.effective [.pageable ⟨1, 2, []⟩]) =
      .ok (["c", "a"].map tokenRecord) := by cbv
  obtain rfl := Except.ok.inj (hrows.symm.trans hwindow)
  obtain rfl := Except.ok.inj (hfound.symm.trans hpage)
  have hmem : tokenRecord "a" ∈ ["c"].map tokenRecord := hinside (by simp)
  simp [tokenRecord] at hmem

end Template
end EntityMapping
