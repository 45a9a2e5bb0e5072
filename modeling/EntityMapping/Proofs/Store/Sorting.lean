import EntityMapping.Proofs.Number.Digits
import EntityMapping.Proofs.Number.Nearest
import EntityMapping.Proofs.Pagination
import EntityMapping.Proofs.Scalar
import EntityMapping.Proofs.Store.Order
import EntityMapping.Store

/-!
# Sorting by integers

What a query finds is in the order of its sorts, if these can deal with the records; otherwise the call may break off.
Integers are stored as such and compared as doubles, or, if they are too large, stored as decimal texts and compared as
texts.

* `Store.pairwise_select` — the order of what a query finds
* `Value.Shows` — the two forms in which integers are stored
* `Value.Shows.compare_of_lt`, `Value.Shows.compare_of_le` — how each of them is compared
* `Direction.keeps_of_isLE` — what a comparison of rounded integers says about the integers
-/

namespace EntityMapping

namespace Store

variable {s : Store} {q : DocumentQuery} {rows : List Record}

theorem perm_of_sorted {records : List Record} (h : s.sorted q = .ok records) : records.Perm (s.matching q) := by
  obtain ⟨-, rfl⟩ := sorted_eq_ok_iff.mp h
  exact perm_sortRecords _ _

theorem select_sublist (h : s.select q = .ok rows) : rows.Sublist (sortRecords q.sorts (s.matching q)) := by
  obtain ⟨-, rfl⟩ := select_eq_ok_iff.mp h
  exact q.window_sublist _

/-- What a query finds is stored, and meets its condition. -/
theorem mem_of_mem_select {r : Record} (h : s.select q = .ok rows) (hr : r ∈ rows) :
    r ∈ s.collection q.entity ∧ q.accepts r = true :=
  List.mem_filter.mp ((perm_sortRecords _ _).mem_iff.mp ((select_sublist h).subset hr))

/-- What a query finds is in the order of its sorts. -/
theorem pairwise_select (h : IsTotalPreorderOn (fun a b => compareRecords a b q.sorts) (· ∈ s.matching q))
    (hselect : s.select q = .ok rows) : rows.Pairwise fun a b => (compareRecords a b q.sorts).isLE = true :=
  (pairwise_sortRecords h).sublist (select_sublist hselect)

end Store

/-! ## Integers as values -/

/-- Whether a value is one that an integer is stored as: the integer itself, or a decimal text if it is no signed
integer of 64 bits. -/
inductive Value.Shows : Value → Int → Prop
  | integer (n : Int64) : Shows (.integer n) n.toInt
  | text {n : Nat} (large : 2 ^ 63 ≤ n) : Shows (.text (naturalText n)) n

namespace Value.Shows

variable {v w : Value} {a b : Int}

theorem sortKind?_of_lt (h : v.Shows a) (ha : a < 2 ^ 63) : v.sortKind? = some .number := by
  cases h with
  | integer n => rfl
  | text large => omega

theorem sortKind?_of_le (h : v.Shows a) (ha : 2 ^ 63 ≤ a) : v.sortKind? = some .text := by
  cases h with
  | integer n => exact absurd n.toInt_lt (by omega)
  | text large => rfl

/-- Integers that are stored as such are compared as doubles. -/
theorem compare_of_lt (hv : v.Shows a) (hw : w.Shows b) (ha : a < 2 ^ 63) (hb : b < 2 ^ 63) :
    v.compare w = compareDoubles (nearestDouble (.ofInt a)) (nearestDouble (.ofInt b)) := by
  cases hv with
  | integer n =>
    cases hw with
    | integer k =>
      rw [Int64.ofInt_toInt, Int64.ofInt_toInt]
      rfl
    | text large => omega
  | text large => omega

/-- Integers that are stored as texts are compared as texts. -/
theorem compare_of_le (hv : v.Shows a) (hw : w.Shows b) (ha : 2 ^ 63 ≤ a) (hb : 2 ^ 63 ≤ b) :
    v.compare w = Ord.compare (naturalText a.toNat) (naturalText b.toNat) := by
  cases hv with
  | integer n => exact absurd n.toInt_lt (by omega)
  | text large =>
    cases hw with
    | integer k => exact absurd k.toInt_lt (by omega)
    | text large' => rfl

/-- The doubles of integers that are stored as such are compared like the rounded integers. -/
theorem compareDoubles_eq (hv : v.Shows a) (hw : w.Shows b) (ha : a < 2 ^ 63) (hb : b < 2 ^ 63) :
    compareDoubles (nearestDouble (.ofInt a)) (nearestDouble (.ofInt b)) =
      Ord.compare (roundIntTo53 a) (roundIntTo53 b) := by
  cases hv with
  | integer n =>
    cases hw with
    | integer k =>
      rw [Int64.ofInt_toInt, Int64.ofInt_toInt]
      exact compareDoubles_nearestDouble n k
    | text large => omega
  | text large => omega

end Value.Shows

namespace ScalarType

variable {t : ScalarType} {x : t.Carrier}

theorem shows_encode {n : Int} (h : t.toInt? x = some n) : (t.encode x).Shows n := by
  cases t with
  | int64 =>
    obtain rfl := Option.some.inj h
    exact .integer x
  | int32 =>
    obtain rfl := Option.some.inj h
    rw [← Int32.toInt_toInt64]
    exact .integer _
  | uint32 =>
    obtain rfl := Option.some.inj h
    have hint : (Int64.ofNat (UInt32.toNat x)).toInt = (UInt32.toNat x : Int) :=
      Int64.toInt_ofNat_of_lt (by have := UInt32.toNat_lt x; omega)
    rw [← hint]
    exact .integer _
  | uint64 =>
    obtain rfl := Option.some.inj h
    rw [encode, encodeNatural]
    split
    · next hlt =>
      rw [← Int64.toInt_ofNat_of_lt hlt]
      exact .integer _
    · next hlt => exact .text (by omega)
  | _ => cases h

end ScalarType

/-! ## The order of integers -/

/-- Whether two integers that follow each other are in the order of a direction. -/
def Direction.Keeps : Direction → Int → Int → Prop
  | asc, a, b => a ≤ b
  | desc, a, b => b ≤ a

namespace Direction

variable {d : Direction} {a b : Int}

/-- Integers are in order if something that grows with them is, and tells them apart. -/
theorem keeps_of_isLE {f : Int → Int} (hf : ∀ a b, a ≤ b → f a ≤ f b)
    (h : (d.orient (compare (f a) (f b))).isLE = true) (hapart : compare (f a) (f b) = .eq → a = b) :
    d.Keeps a b := by
  have hasc {a b : Int} (h : f a ≤ f b) (hapart : f a = f b → a = b) : a ≤ b := by
    by_contra hlt
    have hle := hf b a (by omega)
    have := hapart (by omega)
    omega
  rw [Int.compare_eq_eq] at hapart
  cases d with
  | asc => exact hasc (Int.isLE_compare.mp h) hapart
  | desc =>
    rw [orient, ← Std.OrientedOrd.eq_swap] at h
    exact hasc (Int.isLE_compare.mp h) fun heq => (hapart heq.symm).symm

/-- Numbers whose texts are equally long are in order if the texts are. -/
theorem keeps_of_isLE_naturalText (h : (d.orient (compare (naturalText a.toNat) (naturalText b.toNat))).isLE = true)
    (ha : 0 ≤ a) (hb : 0 ≤ b) (hlength : (naturalText a.toNat).length = (naturalText b.toNat).length) :
    d.Keeps a b := by
  rw [compare_naturalText hlength, ← compare_natCast, Int.toNat_of_nonneg ha, Int.toNat_of_nonneg hb] at h
  exact keeps_of_isLE (f := id) (fun _ _ h => h) h Int.compare_eq_eq.mp

end Direction

/-- The order of integers that were found among those that are stored, when they are sorted by. -/
structure SortedByInteger (d : Direction) (stored found : List Int) : Prop where
  /-- Signed integers of 64 bits are in order as far as doubles tell them apart. -/
  signed : (∀ n ∈ stored, n < 2 ^ 63) → found.Pairwise fun a b =>
    compareDoubles (nearestDouble (.ofInt a)) (nearestDouble (.ofInt b)) ≠ .eq → d.Keeps a b
  /-- Integers that doubles hold exactly are in order. -/
  small : (∀ n ∈ stored, n.natAbs ≤ 2 ^ 53) → found.Pairwise d.Keeps
  /-- Larger integers are in the order of their texts. -/
  texts : (∀ n ∈ stored, 2 ^ 63 ≤ n) → found.Pairwise fun a b =>
    (d.orient (compare (naturalText a.toNat) (naturalText b.toNat))).isLE = true
  /-- So they are in order as far as they have equally many digits. -/
  digits : (∀ n ∈ stored, 2 ^ 63 ≤ n) → found.Pairwise fun a b =>
    (naturalText a.toNat).length = (naturalText b.toNat).length → d.Keeps a b

namespace Store

section Integers

variable {s : Store} {q : DocumentQuery} {rows : List Record} {name : String} {d : Direction} {integer : Record → Int}
  (hselect : s.select q = .ok rows) (hsorts : q.sorts = [⟨name, d⟩])
  (hshows : ∀ r ∈ s.matching q, ∃ v : Value, r.get? name = some v ∧ v.Shows (integer r))
include hselect hsorts hshows

/-- If the values that are sorted by are of one kind, two rows one of which follows the other are in the order of their
values. -/
theorem pairwise_select_of_kind (k : Value.SortKind)
    (hkind : ∀ r ∈ s.matching q, ∀ v : Value, v.Shows (integer r) → v.sortKind? = some k) {R : Int → Int → Prop}
    (hR : ∀ a ∈ s.matching q, ∀ b ∈ s.matching q, ∀ v w : Value, v.Shows (integer a) → w.Shows (integer b) →
      (d.orient (v.compare w)).isLE = true → R (integer a) (integer b)) :
    (rows.map integer).Pairwise R := by
  have hmem {r : Record} (hr : r ∈ rows) : r ∈ s.matching q := List.mem_filter.mpr (mem_of_mem_select hselect hr)
  have hcomparable : ∀ key ∈ q.sorts, Value.Comparable (HeldUnder (· ∈ s.matching q) key.property) := by
    rw [hsorts, List.forall_mem_singleton]
    refine .inl ⟨k, ?_⟩
    rintro v ⟨r, hr, hv⟩
    obtain ⟨w, hw, hshow⟩ := hshows r hr
    cases hw.symm.trans hv
    exact hkind r hr v hshow
  rw [List.pairwise_map]
  refine (pairwise_select (isTotalPreorderOn_compareRecords hcomparable) hselect).imp_of_mem fun {a b} ha hb hle => ?_
  obtain ⟨v, hv, hvshow⟩ := hshows a (hmem ha)
  obtain ⟨w, hw, hwshow⟩ := hshows b (hmem hb)
  refine hR a (hmem ha) b (hmem hb) v w hvshow hwshow ?_
  simpa [hsorts, compareRecords, hv, hw, Value.compareMissing] using hle

/-- Signed integers are in the order of what they are rounded to. -/
theorem pairwise_select_signed (h : ∀ r ∈ s.matching q, integer r < 2 ^ 63) :
    (rows.map integer).Pairwise fun a b =>
      compareDoubles (nearestDouble (.ofInt a)) (nearestDouble (.ofInt b)) =
          compare (roundIntTo53 a) (roundIntTo53 b) ∧
        (d.orient (compare (roundIntTo53 a) (roundIntTo53 b))).isLE = true := by
  refine pairwise_select_of_kind hselect hsorts hshows .number (fun r hr v hv => hv.sortKind?_of_lt (h r hr)) ?_
  intro a ha b hb v w hv hw hle
  have hdoubles := hv.compareDoubles_eq hw (h a ha) (h b hb)
  rw [hv.compare_of_lt hw (h a ha) (h b hb), hdoubles] at hle
  exact ⟨hdoubles, hle⟩

/-- Larger integers are in the order of their texts. -/
theorem pairwise_select_texts (h : ∀ r ∈ s.matching q, 2 ^ 63 ≤ integer r) :
    (rows.map integer).Pairwise fun a b =>
      (0 ≤ a ∧ 0 ≤ b) ∧ (d.orient (compare (naturalText a.toNat) (naturalText b.toNat))).isLE = true := by
  refine pairwise_select_of_kind hselect hsorts hshows .text (fun r hr v hv => hv.sortKind?_of_le (h r hr)) ?_
  intro a ha b hb v w hv hw hle
  rw [hv.compare_of_le hw (h a ha) (h b hb)] at hle
  have hapos := h a ha
  have hbpos := h b hb
  exact ⟨⟨by omega, by omega⟩, hle⟩

/-- What a query finds that is sorted by an integer is in the order of the integers, as far as these are compared as
such. -/
theorem sortedByInteger_select :
    SortedByInteger d ((s.matching q).map integer) (rows.map integer) where
  signed hlt := by
    have hrows := pairwise_select_signed hselect hsorts hshows fun r hr => hlt _ (List.mem_map_of_mem hr)
    refine hrows.imp fun {a b} ⟨hdoubles, hle⟩ hapart => ?_
    rw [hdoubles] at hapart
    exact Direction.keeps_of_isLE (fun _ _ => roundIntTo53_mono) hle fun heq => absurd heq hapart
  small hsmall := by
    have hrows := pairwise_select_signed hselect hsorts hshows fun r hr => by
      have := hsmall _ (List.mem_map_of_mem hr)
      omega
    have hfound : ∀ n ∈ rows.map integer, n.natAbs ≤ 2 ^ 53 := by
      rw [List.forall_mem_map]
      exact fun r hr => hsmall _ (List.mem_map_of_mem (List.mem_filter.mpr (mem_of_mem_select hselect hr)))
    refine hrows.imp_of_mem fun {a b} ha hb ⟨_, hle⟩ => ?_
    rw [roundIntTo53_of_natAbs_le (hfound a ha), roundIntTo53_of_natAbs_le (hfound b hb)] at hle
    exact Direction.keeps_of_isLE (f := id) (fun _ _ h => h) hle Int.compare_eq_eq.mp
  texts hlarge :=
    (pairwise_select_texts hselect hsorts hshows fun r hr => hlarge _ (List.mem_map_of_mem hr)).imp fun {_ _} h => h.2
  digits hlarge :=
    (pairwise_select_texts hselect hsorts hshows fun r hr => hlarge _ (List.mem_map_of_mem hr)).imp
      fun {_ _} ⟨⟨ha, hb⟩, hle⟩ hlength => Direction.keeps_of_isLE_naturalText hle ha hb hlength

end Integers

end Store
end EntityMapping
