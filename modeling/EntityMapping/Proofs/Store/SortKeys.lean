import EntityMapping.Proofs.Record.Fields
import EntityMapping.Proofs.Store.Numbering
import EntityMapping.Proofs.Store.Order
import Mathlib

/-!
# Sorts that decide

Records that differ in a property are put in order by the first sort that names it. A later sort by the same property
has nothing left to decide, whatever its direction. Apart from that every sort counts, and so does their order: two
lists of sorts put all records in the same order exactly if the sorts that decide are the same.

* `SortKey.deciding` — the sorts that decide
* `compareRecords_deciding` — they compare records as all sorts do
* `SortKey.deciding_eq_iff` — no other sorts compare all records like this
* `Store.exists_pair` — two records by which a store tells them apart
-/

namespace EntityMapping

namespace SortKey

/-- The sorts that decide: the first one by each property. -/
def deciding : List SortKey → List SortKey
  | [] => []
  | k :: ks => k :: (deciding ks).filter fun l => l.property ≠ k.property

/-- No two of the sorts that decide name the same property. -/
theorem pairwise_deciding (ks : List SortKey) : (deciding ks).Pairwise fun k l => k.property ≠ l.property := by
  induction ks with
  | nil => exact .nil
  | cons k ks ih =>
    refine List.pairwise_cons.mpr ⟨?_, ih.filter _⟩
    intro l hl
    have hne : l.property ≠ k.property := of_decide_eq_true (List.mem_filter.mp hl).2
    exact hne.symm

end SortKey

/-! ## Comparing by the sorts that decide -/

/-- The order of two records by one property. -/
def compareUnder (name : String) (a b : Record) : Ordering := Value.compareMissing (a.get? name) (b.get? name)

theorem compareRecords_cons (k : SortKey) (ks : List SortKey) (a b : Record) :
    compareRecords a b (k :: ks) =
      (k.direction.orient (compareUnder k.property a b)).then (compareRecords a b ks) := rfl

theorem compareRecords_cons_of_eq {k : SortKey} {a b : Record} (h : compareUnder k.property a b = .eq)
    (ks : List SortKey) : compareRecords a b (k :: ks) = compareRecords a b ks := by
  rw [compareRecords_cons, h]
  cases k.direction <;> rfl

/-- Sorts by a property in which two records do not differ say nothing about them. -/
theorem compareRecords_filter {name : String} {a b : Record} (h : compareUnder name a b = .eq) (ks : List SortKey) :
    compareRecords a b (ks.filter fun k => k.property ≠ name) = compareRecords a b ks := by
  induction ks with
  | nil => rfl
  | cons k ks ih =>
    by_cases hk : k.property = name
    · rw [List.filter_cons_of_neg (by simp [hk]), ih, compareRecords_cons_of_eq (hk ▸ h)]
    · rw [List.filter_cons_of_pos (by simp [hk]), compareRecords_cons, compareRecords_cons, ih]

theorem compareRecords_deciding (a b : Record) (ks : List SortKey) :
    compareRecords a b (SortKey.deciding ks) = compareRecords a b ks := by
  induction ks with
  | nil => rfl
  | cons k ks ih =>
    rw [SortKey.deciding, compareRecords_cons, compareRecords_cons]
    by_cases heq : compareUnder k.property a b = .eq
    · rw [compareRecords_filter heq, ih]
    -- the records differ in the property, so nothing behind matters
    · cases hcompare : compareUnder k.property a b with
      | eq => exact absurd hcompare heq
      | lt | gt => cases k.direction <;> rfl

/-! ## Sorts told apart -/

/-- A record with something under some names. -/
def marked (names : List String) : Record := ⟨"Marked", names.map fun name => (name, .boolean true)⟩

theorem get?_marked (names : List String) (name : String) :
    (marked names).get? name = if name ∈ names then some (.boolean true) else none := by
  induction names with
  | nil => rfl
  | cons n names ih =>
    have hcons : (marked (n :: names)).get? name =
        if n = name then some (.boolean true) else (marked names).get? name := rfl
    rw [hcons, ih]
    by_cases h : n = name
    · simp [h]
    · simp [h, Ne.symm h]

/-- A record that has something under a name is behind one that has nothing there. -/
theorem compareUnder_marked (xs ys : List String) (name : String) :
    compareUnder name (marked xs) (marked ys) =
      if name ∈ xs then (if name ∈ ys then .eq else .gt) else if name ∈ ys then .lt else .eq := by
  rw [compareUnder, get?_marked, get?_marked]
  by_cases hx : name ∈ xs
  · by_cases hy : name ∈ ys
    · simp [hx, hy, Value.compareMissing, Value.compare_self]
    · simp [hx, hy, Value.compareMissing]
  · by_cases hy : name ∈ ys
    · simp [hx, hy, Value.compareMissing]
    · simp [hx, hy, Value.compareMissing]

/-- Whether two lists of sorts put records in the same order that do not differ in some properties. -/
def CompareAlike (used : List String) (ks ls : List SortKey) : Prop :=
  ∀ a b, (∀ name ∈ used, compareUnder name a b = .eq) → compareRecords a b ks = compareRecords a b ls

namespace CompareAlike

variable {used : List String} {k l : SortKey} {ks ls : List SortKey}

theorem symm (h : CompareAlike used ks ls) : CompareAlike used ls ks := fun a b heq => (h a b heq).symm

theorem on_marked (h : CompareAlike used ks ls) {xs ys : List String} (hxs : ∀ x ∈ xs, x ∉ used)
    (hys : ∀ y ∈ ys, y ∉ used) :
    compareRecords (marked xs) (marked ys) ks = compareRecords (marked xs) (marked ys) ls := by
  apply h
  intro name hname
  have hx : name ∉ xs := fun hmem => hxs name hmem hname
  have hy : name ∉ ys := fun hmem => hys name hmem hname
  rw [compareUnder_marked, if_neg hx, if_neg hy]

/-- A sort does not leave all records as they are. -/
theorem eq_nil (h : CompareAlike used [] ls) (hls : ∀ l ∈ ls, l.property ∉ used) : ls = [] := by
  cases ls with
  | nil => rfl
  | cons l ls =>
    have hfree : ∀ x ∈ [l.property], x ∉ used := by simpa using hls l List.mem_cons_self
    have hone := h.on_marked hfree (List.forall_mem_nil _)
    rw [compareRecords_cons, compareUnder_marked] at hone
    cases hd : l.direction <;> simp [compareRecords, hd, Direction.orient] at hone

/-- The first sort can be told from the order of records that have something under its property or nothing. -/
theorem head_eq (h : CompareAlike used (k :: ks) (l :: ls)) (hk : k.property ∉ used) (hl : l.property ∉ used) :
    k = l := by
  obtain ⟨p, d⟩ := k
  obtain ⟨p', d'⟩ := l
  have hfree : ∀ x ∈ [p, p'], x ∉ used := by simpa using ⟨hk, hl⟩
  have hmarked (xs ys : List String) (hxs : xs ⊆ [p, p']) (hys : ys ⊆ [p, p']) :=
    h.on_marked (fun x hx => hfree x (hxs hx)) fun y hy => hfree y (hys hy)
  simp only [compareRecords_cons, compareUnder_marked] at hmarked
  by_cases hp : p = p'
  · subst hp
    have hone := hmarked [p] [] (by simp) (by simp)
    cases d <;> cases d' <;> simp [Direction.orient] at hone ⊢
  -- the record that comes first by `p` comes last by `p'`
  · have hp' := Ne.symm hp
    exfalso
    cases d <;> cases d'
    case asc.asc =>
      have hone := hmarked [p'] [p] (by simp) (by simp)
      simp [Direction.orient, hp, hp'] at hone
    case asc.desc =>
      have hone := hmarked [] [p, p'] (by simp) (by simp)
      simp [Direction.orient] at hone
    case desc.asc =>
      have hone := hmarked [p, p'] [] (by simp) (by simp)
      simp [Direction.orient] at hone
    case desc.desc =>
      have hone := hmarked [p] [p'] (by simp) (by simp)
      simp [Direction.orient, hp, hp'] at hone

theorem tail (h : CompareAlike used (k :: ks) (k :: ls)) : CompareAlike (k.property :: used) ks ls := by
  intro a b heq
  have hk : compareUnder k.property a b = .eq := heq k.property List.mem_cons_self
  rw [← compareRecords_cons_of_eq hk ks, ← compareRecords_cons_of_eq hk ls]
  exact h a b fun name hname => heq name (List.mem_cons_of_mem _ hname)

/-- Sorts by different properties are the same if they put all records in the same order. -/
theorem eq (h : CompareAlike used ks ls) (hks : ks.Pairwise fun k l => k.property ≠ l.property)
    (hls : ls.Pairwise fun k l => k.property ≠ l.property) (hksUsed : ∀ k ∈ ks, k.property ∉ used)
    (hlsUsed : ∀ l ∈ ls, l.property ∉ used) : ks = ls := by
  -- the first sorts are the same, and what is behind them compares records that are equal in their property
  induction ks generalizing ls used with
  | nil => exact (h.eq_nil hlsUsed).symm
  | cons k ks ih =>
    cases ls with
    | nil => exact h.symm.eq_nil hksUsed
    | cons l ls =>
      obtain rfl : k = l := h.head_eq (hksUsed k List.mem_cons_self) (hlsUsed l List.mem_cons_self)
      obtain ⟨hk, hks⟩ := List.pairwise_cons.mp hks
      obtain ⟨hl, hls⟩ := List.pairwise_cons.mp hls
      refine congrArg (k :: ·) (ih h.tail hks hls ?_ ?_)
      · intro m hm
        exact List.not_mem_cons_of_ne_of_not_mem (hk m hm).symm (hksUsed m (List.mem_cons_of_mem _ hm))
      · intro m hm
        exact List.not_mem_cons_of_ne_of_not_mem (hl m hm).symm (hlsUsed m (List.mem_cons_of_mem _ hm))

end CompareAlike

/-- **Two lists of sorts put all records in the same order exactly if the sorts that decide are the same.** -/
theorem SortKey.deciding_eq_iff {ks ls : List SortKey} :
    deciding ks = deciding ls ↔ ∀ a b, compareRecords a b ks = compareRecords a b ls := by
  constructor
  · intro heq a b
    rw [← compareRecords_deciding, heq, compareRecords_deciding]
  · intro h
    have halike : CompareAlike [] (deciding ks) (deciding ls) := by
      intro a b _
      rw [compareRecords_deciding, compareRecords_deciding, h]
    exact halike.eq (pairwise_deciding ks) (pairwise_deciding ls) (by simp) (by simp)

theorem SortKey.eq_nil_of_deciding {ks : List SortKey} (h : deciding ks = []) : ks = [] := by
  cases ks with
  | nil => rfl
  | cons k ks => simp [deciding] at h

/-- Records are sorted by the sorts that decide. -/
theorem sortRecords_of_deciding {ks ls : List SortKey} (h : SortKey.deciding ks = SortKey.deciding ls)
    (records : List Record) : sortRecords ks records = sortRecords ls records := by
  by_cases hks : ks = []
  · subst hks
    rw [SortKey.eq_nil_of_deciding h.symm]
  · have hls : ls ≠ [] := by
      rintro rfl
      exact hks (SortKey.eq_nil_of_deciding h)
    simp only [sortRecords, List.isEmpty_iff, hks, hls, if_false, SortKey.deciding_eq_iff.mp h]

/-- Whether records can be sorted depends on the sorts that decide, too. -/
theorem sortRecords?_of_deciding {ks ls : List SortKey} (h : SortKey.deciding ks = SortKey.deciding ls)
    (records : List Record) : sortRecords? ks records = sortRecords? ls records := by
  have hsortable : Sortable ks records ↔ Sortable ls records := by
    simp only [Sortable, SortKey.deciding_eq_iff.mp h]
  rw [sortRecords?, sortRecords?, sortRecords_of_deciding h]
  exact if_congr hsortable rfl rfl

/-! ## Two records in a store -/

/-- The order of two records is known from whether it is `lt` from the one side and from the other. -/
theorem compareRecords_eq_of_lt_iff {ks ls : List SortKey}
    (h : ∀ a b, compareRecords a b ks = .lt ↔ compareRecords a b ls = .lt) (a b : Record) :
    compareRecords a b ks = compareRecords a b ls := by
  have hleft := h a b
  have hright := h b a
  rw [compareRecords_swap a b ks, compareRecords_swap a b ls] at hright
  cases hks : compareRecords a b ks <;> cases hls : compareRecords a b ls <;> simp_all

theorem compareRecords_congr {a b a' b' : Record} {ks : List SortKey}
    (h : ∀ k ∈ ks, compareUnder k.property a' b' = compareUnder k.property a b) :
    compareRecords a' b' ks = compareRecords a b ks := by
  induction ks with
  | nil => rfl
  | cons k ks ih =>
    rw [compareRecords_cons, compareRecords_cons, h k List.mem_cons_self,
      ih fun l hl => h l (List.mem_cons_of_mem _ hl)]

/-- Sorting two records shows how they compare. -/
theorem compareRecords_lt_iff_of_sortRecords {a b : Record} (hne : a ≠ b) {ks ls : List SortKey}
    (h : sortRecords ks [a, b] = sortRecords ls [a, b]) :
    compareRecords b a ks = .lt ↔ compareRecords b a ls = .lt := by
  rw [sortRecords_pair, sortRecords_pair] at h
  split at h
  · next hks =>
    split at h
    · next hls => exact iff_of_true hks hls
    · exact absurd (List.cons.inj h).1.symm hne
  · next hks =>
    split at h
    · exact absurd (List.cons.inj h).1 hne
    · next hls => exact iff_of_false hks hls

namespace Store

/-- A record under the name of an item. -/
def item (r : Record) : Record := { r with name := "Item" }

/-- Two items that bring no ids are stored one after the other, with two ids. -/
theorem collection_run_items {idField : String} {a b : Record} (ha : a.get? idField = none)
    (hb : b.get? idField = none) :
    ((empty idField 1).run [.insert (item a), .insert (item b)]).collection "Item" =
      [(item a).add idField (.integer 1), (item b).add idField (.integer 2)] := by
  have ha' : (item a).get? idField = none := ha
  have hb' : (item b).get? idField = none := hb
  let s := ((empty idField 1).insert (item a)).2
  have hfield : s.idField = idField := (empty idField 1).idField_insert (item a)
  have hnext : s.nextId = 2 := nextId_insert ha'
  have hfirst : s.collection "Item" = [(item a).add idField (.integer 1)] := by
    rcases insert_of_none (s := empty idField 1) ha' with ⟨-, -, hfirst⟩ | ⟨htaken, -⟩
    · exact hfirst "Item"
    · exact absurd htaken (not_isTaken_empty idField 1)
  rw [← hfield] at hb'
  rcases insert_of_none hb' with ⟨-, -, hsecond⟩ | ⟨⟨r, hr, hid⟩, -⟩
  · calc (s.insert (item b)).2.collection "Item"
        = s.collection "Item" ++ [(item b).add s.idField (.integer s.nextId)] := hsecond "Item"
      _ = _ := by rw [hfirst, hfield, hnext]; rfl
  -- the first item has the first number
  · have hmem : r ∈ s.collection "Item" := hr
    obtain rfl : r = (item a).add idField (.integer 1) := by simpa [hfirst] using hmem
    rw [hfield, hnext, RecordOf.get?_add, if_pos rfl] at hid
    simp at hid

/-- Two records can be inserted into a store, with ids that some sorts do not look at. -/
theorem exists_pair (a b : Record) (sorts : List SortKey) :
    ∃ idField calls a' b', a' ≠ b' ∧ ((empty idField 1).run calls).collection "Item" = [a', b'] ∧
      ∀ k ∈ sorts, compareUnder k.property b' a' = compareUnder k.property b a := by
  obtain ⟨idField, hfresh⟩ :=
    Infinite.exists_notMem_finset (sorts.map SortKey.property ++ a.names ++ b.names).toFinset
  simp only [List.mem_toFinset, List.mem_append, not_or] at hfresh
  obtain ⟨⟨hsorts, ha⟩, hb⟩ := hfresh
  have ha' : a.get? idField = none := Fields.get?_eq_none_iff.mpr ha
  have hb' : b.get? idField = none := Fields.get?_eq_none_iff.mpr hb
  refine ⟨idField, _, _, _, ?_, collection_run_items ha' hb', ?_⟩
  · intro heq
    have hid := congrArg (fun r => r.get? idField) heq
    simp [RecordOf.get?_add] at hid
  · intro k hk
    have hne : k.property ≠ idField := fun h => hsorts (h ▸ List.mem_map_of_mem hk)
    simp only [compareUnder, RecordOf.get?_add, if_neg hne]
    rfl

end Store
end EntityMapping
