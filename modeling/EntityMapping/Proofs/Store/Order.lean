import EntityMapping.Proofs.Number.Finite
import EntityMapping.Proofs.Number.Order

/-!
# Comparing records

A sort needs a comparison that is a total preorder on what it sorts. The comparison of records is reflexive and turns
round with its sides, whatever the records hold. It is transitive as long as the values under each property that
is sorted by are of one kind, and not otherwise: values of different kinds are all equal to each other, while those of
one kind differ.

* `Value.SortKind` — the kinds of values that are compared as what they are
* `Value.isTotalPreorderOn_compare_iff` — the sets of values that a sort can deal with
* `compareRecords_orders` — the sets of records
* `pairwise_sortRecords` — these are put in order
-/

namespace EntityMapping

/-! ## Total preorders -/

namespace IsTotalPreorderOn

variable {α β : Type} {cmp cmp' : α → α → Ordering} {p q : α → Prop}

/-- The library's notion, for the items with the property. -/
theorem iff_transCmp : IsTotalPreorderOn cmp p ↔ Std.TransCmp fun a b : {a // p a} => cmp a.1 b.1 := by
  constructor
  · intro h
    exact {
      eq_swap := fun {a b} => h.swap b.1 a.1 b.2 a.2
      isLE_trans := fun {a b c} => h.le_trans a.1 b.1 c.1 a.2 b.2 c.2 }
  · intro h
    let on (a b : {a // p a}) : Ordering := cmp a.1 b.1
    exact {
      refl := fun a ha => @Std.ReflCmp.compare_self _ on _ ⟨a, ha⟩
      swap := fun a b ha hb => @Std.OrientedCmp.eq_swap _ on _ ⟨b, hb⟩ ⟨a, ha⟩
      le_trans := fun a b c ha hb hc => @Std.TransCmp.isLE_trans _ on _ ⟨a, ha⟩ ⟨b, hb⟩ ⟨c, hc⟩
      eq_trans := fun a b c ha hb hc => @Std.TransCmp.eq_trans _ on _ ⟨a, ha⟩ ⟨b, hb⟩ ⟨c, hc⟩ }

/-- A comparison of items by what they stand for. -/
theorem of_transCmp (cmpβ : β → β → Ordering) [Std.TransCmp cmpβ] (standsFor : α → β → Prop)
    (hp : ∀ a, p a → ∃ b, standsFor a b)
    (hcmp : ∀ a a' b b', standsFor a b → standsFor a' b' → cmp a a' = cmpβ b b') : IsTotalPreorderOn cmp p := by
  choose f hf using hp
  have heq (a a' : {a // p a}) : cmp a.1 a'.1 = cmpβ (f a.1 a.2) (f a'.1 a'.2) :=
    hcmp _ _ _ _ (hf a.1 a.2) (hf a'.1 a'.2)
  refine iff_transCmp.mpr { eq_swap := fun {a b} => ?_, isLE_trans := fun {a b c} => ?_ }
  · rw [heq, heq]
    exact Std.OrientedCmp.eq_swap
  · rw [heq, heq, heq]
    exact Std.TransCmp.isLE_trans

theorem of_eq (h : ∀ a b, p a → p b → cmp a b = .eq) : IsTotalPreorderOn cmp p where
  refl a ha := h a a ha ha
  swap a b ha hb := by rw [h a b ha hb, h b a hb ha]; rfl
  le_trans a _ c ha _ hc _ _ := by rw [h a c ha hc]; rfl
  eq_trans a _ c ha _ hc _ _ := h a c ha hc

theorem mono (h : IsTotalPreorderOn cmp p) (hq : ∀ a, q a → p a) : IsTotalPreorderOn cmp q where
  refl a ha := h.refl a (hq a ha)
  swap a b ha hb := h.swap a b (hq a ha) (hq b hb)
  le_trans a b c ha hb hc := h.le_trans a b c (hq a ha) (hq b hb) (hq c hc)
  eq_trans a b c ha hb hc := h.eq_trans a b c (hq a ha) (hq b hb) (hq c hc)

theorem comap (f : β → α) (h : IsTotalPreorderOn cmp p) :
    IsTotalPreorderOn (fun a b => cmp (f a) (f b)) fun b => p (f b) where
  refl a ha := h.refl (f a) ha
  swap a b ha hb := h.swap (f a) (f b) ha hb
  le_trans a b c ha hb hc := h.le_trans (f a) (f b) (f c) ha hb hc
  eq_trans a b c ha hb hc := h.eq_trans (f a) (f b) (f c) ha hb hc

theorem orient (d : Direction) (h : IsTotalPreorderOn cmp p) :
    IsTotalPreorderOn (fun a b => d.orient (cmp a b)) p := by
  cases d with
  | asc => exact h
  | desc =>
    -- turned round, a comparison is that of the sides exchanged
    have hswap (a b : {a // p a}) : (cmp a.1 b.1).swap = cmp b.1 a.1 := (h.swap a.1 b.1 a.2 b.2).symm
    have := iff_transCmp.mp h
    refine iff_transCmp.mpr ?_
    simp only [Direction.orient, hswap]
    exact @Std.TransCmp.opposite _ (fun a b : {a // p a} => cmp a.1 b.1) _

/-- Where one comparison does not decide, another one does. -/
theorem lex (h : IsTotalPreorderOn cmp p) (h' : IsTotalPreorderOn cmp' p) :
    IsTotalPreorderOn (fun a b => (cmp a b).then (cmp' a b)) p := by
  have := iff_transCmp.mp h
  have := iff_transCmp.mp h'
  refine iff_transCmp.mpr ?_
  exact inferInstanceAs (Std.TransCmp (compareLex (fun a b : {a // p a} => cmp a.1 b.1) fun a b => cmp' a.1 b.1))

end IsTotalPreorderOn

/-! ## Values -/

instance : Std.TransCmp Date.compare :=
  inferInstanceAs (Std.TransCmp (compareLex (compareOn Date.year) (compareLex (compareOn Date.month)
    (compareOn Date.day))))

instance : Std.TransCmp Timestamp.compare :=
  have : Std.TransCmp fun a b : Timestamp => a.date.compare b.date := {
    eq_swap := Std.OrientedCmp.eq_swap
    isLE_trans := Std.TransCmp.isLE_trans }
  inferInstanceAs (Std.TransCmp (compareLex (fun a b : Timestamp => a.date.compare b.date)
    (compareLex (compareOn Timestamp.second) (compareOn Timestamp.nano))))

instance : Std.TransCmp Uuid.compare :=
  inferInstanceAs (Std.TransCmp (compareOn fun u : Uuid => u.bits.toNat))

namespace Value

/-- The kinds of values that are compared as what they are. -/
inductive SortKind where
  | text
  | boolean
  | timestamp
  | date
  | uuid
  | number
  deriving DecidableEq, Repr

/-- The kind as which a value is compared, if it is compared at all. A double that is no number is not. -/
def sortKind? : Value → Option SortKind
  | text _ => some .text
  | integer _ => some .number
  | float x => if x.isNaN then none else some .number
  | boolean _ => some .boolean
  | timestamp _ => some .timestamp
  | date _ => some .date
  | uuid _ => some .uuid
  | binary _ => none
  | array _ => none
  | record _ => none
  | records _ => none

variable {a b : Value} {k : SortKind}

theorem sortKind?_float_eq_number_iff {x : Float} : (float x).sortKind? = some .number ↔ x.isNaN = false := by
  show (if x.isNaN = true then none else some SortKind.number) = some .number ↔ _
  cases x.isNaN <;> decide

/-- What is compared as a number is a double that is a number. -/
theorem exists_asDouble?_of_number (h : a.sortKind? = some .number) :
    ∃ x, a.asDouble? = some x ∧ x.isNaN = false := by
  cases a with
  | integer n => exact ⟨nearestDouble n, rfl, isNaN_of_isFinite (isFinite_nearestDouble n)⟩
  | float x => exact ⟨x, rfl, sortKind?_float_eq_number_iff.mp h⟩
  | _ => simp [sortKind?] at h

theorem compare_of_asDouble? {x y : Float} (ha : a.asDouble? = some x) (hb : b.asDouble? = some y) :
    a.compare b = compareDoubles x y := by
  cases a with
  | integer | float =>
    cases b with
    | integer | float =>
      cases ha
      cases hb
      rfl
    | _ => cases hb
  | _ => cases ha

/-- Values that are not of one kind are equal. -/
theorem compare_of_sortKind? (h : ∀ k, a.sortKind? = some k → b.sortKind? ≠ some k) : a.compare b = .eq := by
  have hnan {x : Float} (hx : (float x).sortKind? ≠ some .number) : x.isNaN = true :=
    eq_true_of_ne_false fun hx' => hx (sortKind?_float_eq_number_iff.mpr hx')
  -- of two numbers, one is a double that is none; all other pairs are equal by definition, or of one kind
  cases a <;> cases b
  case integer.float n x => exact compareDoubles_of_isNaN (.inr (hnan (h _ rfl)))
  case float.integer x n => exact compareDoubles_of_isNaN (.inl (hnan fun hx => h _ hx rfl))
  case float.float x y =>
    by_cases hx : (float x).sortKind? = some .number
    · exact compareDoubles_of_isNaN (.inr (hnan (h _ hx)))
    · exact compareDoubles_of_isNaN (.inl (hnan hx))
  all_goals first
    | rfl
    | exact absurd rfl (h _ rfl)

theorem isTotalPreorderOn_of_constructor {β : Type} (cmp : β → β → Ordering) [Std.TransCmp cmp] (make : β → Value)
    (hmake : ∀ v, v.sortKind? = some k → ∃ b, v = make b)
    (hcmp : ∀ b b', (make b).compare (make b') = cmp b b') :
    IsTotalPreorderOn compare fun v => v.sortKind? = some k := by
  refine .of_transCmp cmp (fun v b => v = make b) hmake ?_
  rintro _ _ b b' rfl rfl
  exact hcmp b b'

/-- The values of one kind are ordered. -/
theorem isTotalPreorderOn_kind (k : SortKind) : IsTotalPreorderOn compare fun v => v.sortKind? = some k := by
  cases k with
  | text =>
    refine isTotalPreorderOn_of_constructor Ord.compare text (fun v hv => ?_) fun _ _ => rfl
    cases v <;> simp_all [sortKind?]
  | boolean =>
    refine isTotalPreorderOn_of_constructor Ord.compare boolean (fun v hv => ?_) fun _ _ => rfl
    cases v <;> simp_all [sortKind?]
  | timestamp =>
    refine isTotalPreorderOn_of_constructor Timestamp.compare timestamp (fun v hv => ?_) fun _ _ => rfl
    cases v <;> simp_all [sortKind?]
  | date =>
    refine isTotalPreorderOn_of_constructor Date.compare date (fun v hv => ?_) fun _ _ => rfl
    cases v <;> simp_all [sortKind?]
  | uuid =>
    refine isTotalPreorderOn_of_constructor Uuid.compare uuid (fun v hv => ?_) fun _ _ => rfl
    cases v <;> simp_all [sortKind?]
  | number =>
    refine .of_transCmp compareKeys
      (fun v k => ∃ x, v.asDouble? = some x ∧ x.isNaN = false ∧ orderKey x.toModel.unpack = k) (fun v hv => ?_) ?_
    · obtain ⟨x, hx, hnan⟩ := exists_asDouble?_of_number hv
      exact ⟨_, x, hx, hnan, rfl⟩
    · rintro a b _ _ ⟨x, hx, hxnan, rfl⟩ ⟨y, hy, hynan, rfl⟩
      rw [compare_of_asDouble? hx hy, compareDoubles_eq_compareKeys hxnan hynan]

theorem compare_self (v : Value) : v.compare v = .eq := by
  by_cases h : ∃ k, v.sortKind? = some k
  · obtain ⟨k, hk⟩ := h
    exact (isTotalPreorderOn_kind k).refl v hk
  · exact compare_of_sortKind? fun k hk => absurd ⟨k, hk⟩ h

theorem compare_swap (a b : Value) : b.compare a = (a.compare b).swap := by
  by_cases h : ∃ k, a.sortKind? = some k ∧ b.sortKind? = some k
  · obtain ⟨k, ha, hb⟩ := h
    exact (isTotalPreorderOn_kind k).swap a b ha hb
  · rw [compare_of_sortKind? fun k ha hb => h ⟨k, ha, hb⟩, compare_of_sortKind? fun k hb ha => h ⟨k, ha, hb⟩]
    rfl

theorem compareMissing_swap (v w : Option Value) : compareMissing w v = (compareMissing v w).swap := by
  cases v <;> cases w
  case some.some v w => exact v.compare_swap w
  all_goals rfl

/-- Whether a sort can deal with the values with a property: they are all of one kind, or no two of them differ. -/
def Comparable (p : Value → Prop) : Prop :=
  (∃ k : SortKind, ∀ v, p v → v.sortKind? = some k) ∨ ∀ a b, p a → p b → a.compare b = .eq

theorem isTotalPreorderOn_compare_iff {p : Value → Prop} : IsTotalPreorderOn compare p ↔ Comparable p := by
  constructor
  · intro h
    by_cases hdiffer : ∃ a b, p a ∧ p b ∧ a.compare b ≠ .eq
    · obtain ⟨a, b, ha, hb, hne⟩ := hdiffer
      obtain ⟨k, hak, hbk⟩ : ∃ k, a.sortKind? = some k ∧ b.sortKind? = some k := by
        by_contra hno
        exact hne (compare_of_sortKind? fun k hak hbk => hno ⟨k, hak, hbk⟩)
      refine .inl ⟨k, fun v hv => ?_⟩
      by_contra hvk
      -- a value of another kind is equal to both, although they differ
      have hav : a.compare v = .eq := compare_of_sortKind? fun k' hak' => by
        cases hak.symm.trans hak'
        exact hvk
      have hvb : v.compare b = .eq := compare_of_sortKind? fun k' hvk' hbk' => by
        cases hbk.symm.trans hbk'
        exact hvk hvk'
      exact hne (h.eq_trans a v b ha hv hb hav hvb)
    · refine .inr fun a b ha hb => ?_
      by_contra hne
      exact hdiffer ⟨a, b, ha, hb, hne⟩
  · rintro (⟨k, hk⟩ | heq)
    · exact (isTotalPreorderOn_kind k).mono hk
    · exact .of_eq heq

/-- Values that may be missing are ordered like those that are there, behind the missing ones. -/
theorem isTotalPreorderOn_compareMissing {p : Value → Prop} (h : IsTotalPreorderOn compare p) :
    IsTotalPreorderOn compareMissing fun o => ∀ v, o = some v → p v where
  refl
    | none, _ => rfl
    | some a, ha => h.refl a (ha a rfl)
  swap
    | none, none, _, _ => rfl
    | none, some _, _, _ => rfl
    | some _, none, _, _ => rfl
    | some a, some b, ha, hb => h.swap a b (ha a rfl) (hb b rfl)
  le_trans
    | none, _, none, _, _, _, _, _ => rfl
    | none, _, some _, _, _, _, _, _ => rfl
    | some _, none, _, _, _, _, hab, _ => by simp [compareMissing] at hab
    | some _, some _, none, _, _, _, _, hbc => by simp [compareMissing] at hbc
    | some a, some b, some c, ha, hb, hc, hab, hbc => h.le_trans a b c (ha a rfl) (hb b rfl) (hc c rfl) hab hbc
  eq_trans
    | none, none, none, _, _, _, _, _ => rfl
    | none, some _, _, _, _, _, hab, _ => by simp [compareMissing] at hab
    | some _, none, _, _, _, _, hab, _ => by simp [compareMissing] at hab
    | _, none, some _, _, _, _, _, hbc => by simp [compareMissing] at hbc
    | _, some _, none, _, _, _, _, hbc => by simp [compareMissing] at hbc
    | some a, some b, some c, ha, hb, hc, hab, hbc => h.eq_trans a b c (ha a rfl) (hb b rfl) (hc c rfl) hab hbc

end Value

/-! ## Records -/

/-- Whether a record with a property holds a value under a name. -/
def HeldUnder (p : Record → Prop) (name : String) (v : Value) : Prop := ∃ r, p r ∧ r.get? name = some v

variable {p : Record → Prop}

/-- Records are ordered by what they hold under a name exactly if these values are. -/
theorem isTotalPreorderOn_get?_iff {name : String} :
    IsTotalPreorderOn (fun a b => Value.compareMissing (a.get? name) (b.get? name)) p ↔
      Value.Comparable (HeldUnder p name) := by
  rw [← Value.isTotalPreorderOn_compare_iff]
  constructor
  · intro h
    have hcompare {a b : Record} {v w : Value} (hv : a.get? name = some v) (hw : b.get? name = some w) :
        v.compare w = Value.compareMissing (a.get? name) (b.get? name) := by
      rw [hv, hw]
      rfl
    constructor
    · rintro v ⟨a, ha, hv⟩
      rw [hcompare hv hv]
      exact h.refl a ha
    · rintro v w ⟨a, ha, hv⟩ ⟨b, hb, hw⟩
      rw [hcompare hv hw, hcompare hw hv]
      exact h.swap a b ha hb
    · rintro v w x ⟨a, ha, hv⟩ ⟨b, hb, hw⟩ ⟨c, hc, hx⟩
      rw [hcompare hv hw, hcompare hw hx, hcompare hv hx]
      exact h.le_trans a b c ha hb hc
    · rintro v w x ⟨a, ha, hv⟩ ⟨b, hb, hw⟩ ⟨c, hc, hx⟩
      rw [hcompare hv hw, hcompare hw hx, hcompare hv hx]
      exact h.eq_trans a b c ha hb hc
  · intro h
    exact ((Value.isTotalPreorderOn_compareMissing h).comap fun r : Record => r.get? name).mono
      fun r hr v hv => ⟨r, hr, hv⟩

theorem compareRecords_self (a : Record) (sorts : List SortKey) : compareRecords a a sorts = .eq := by
  induction sorts with
  | nil => rfl
  | cons s ss ih =>
    have hself : Value.compareMissing (a.get? s.property) (a.get? s.property) = .eq := by
      cases a.get? s.property with
      | none => rfl
      | some v => exact v.compare_self
    rw [compareRecords, ih, hself]
    cases s.direction <;> rfl

theorem compareRecords_swap (a b : Record) (sorts : List SortKey) :
    compareRecords b a sorts = (compareRecords a b sorts).swap := by
  induction sorts with
  | nil => rfl
  | cons s ss ih =>
    rw [compareRecords, compareRecords, ih, Value.compareMissing_swap, Ordering.swap_then]
    cases s.direction <;> rfl

/-- Records are ordered by several sorts if they are by each of them. -/
theorem isTotalPreorderOn_compareRecords {sorts : List SortKey}
    (h : ∀ s ∈ sorts, Value.Comparable (HeldUnder p s.property)) :
    IsTotalPreorderOn (fun a b => compareRecords a b sorts) p := by
  induction sorts with
  | nil => exact .of_eq fun _ _ _ _ => rfl
  | cons s ss ih =>
    have hfirst := isTotalPreorderOn_get?_iff.mpr (h s (by simp))
    exact (hfirst.orient s.direction).lex (ih fun s' hs' => h s' (by simp [hs']))

/-- **The comparison of records is reflexive and turns round with its sides, and it is transitive among the records with
a property, for all sorts by some names, exactly if the values that the records hold under each of these names are of
one kind, or all equal.** -/
theorem compareRecords_orders (p : Record → Prop) (names : String → Prop) :
    (∀ sorts a, compareRecords a a sorts = .eq) ∧
      (∀ sorts a b, compareRecords b a sorts = (compareRecords a b sorts).swap) ∧
      ((∀ sorts : List SortKey, (∀ s ∈ sorts, names s.property) →
          IsTotalPreorderOn (fun a b => compareRecords a b sorts) p) ↔
        ∀ name, names name → Value.Comparable (HeldUnder p name)) := by
  refine ⟨fun sorts a => compareRecords_self a sorts, fun sorts a b => compareRecords_swap a b sorts,
    fun h name hname => ?_, fun h sorts hsorts => ?_⟩
  · have hone := h [⟨name, .asc⟩] (by simpa using hname)
    refine isTotalPreorderOn_get?_iff.mp ?_
    simpa [compareRecords, Direction.orient] using hone
  · exact isTotalPreorderOn_compareRecords fun s hs => h s.property (hsorts s hs)

/-- A record with a label. -/
def labelled (v : Value) : Record := ⟨"Label", [("label", v)]⟩

/-- A number is equal to two texts that differ. -/
theorem compareRecords_labels :
    compareRecords (labelled (.text "b")) (labelled (.integer 1)) [⟨"label", .asc⟩] = .eq ∧
      compareRecords (labelled (.integer 1)) (labelled (.text "a")) [⟨"label", .asc⟩] = .eq ∧
      compareRecords (labelled (.text "b")) (labelled (.text "a")) [⟨"label", .asc⟩] = .gt ∧
      ¬ IsTotalPreorderOn (fun a b => compareRecords a b [⟨"label", .asc⟩]) fun _ => True := by
  have hleft : compareRecords (labelled (.text "b")) (labelled (.integer 1)) [⟨"label", .asc⟩] = .eq := by decide
  have hright : compareRecords (labelled (.integer 1)) (labelled (.text "a")) [⟨"label", .asc⟩] = .eq := by decide
  have hends : compareRecords (labelled (.text "b")) (labelled (.text "a")) [⟨"label", .asc⟩] = .gt := by decide
  refine ⟨hleft, hright, hends, fun h => ?_⟩
  have heq := h.eq_trans _ _ _ trivial trivial trivial hleft hright
  cases heq.symm.trans hends

/-! ## Sorting -/

namespace IsTotalPreorderOn

variable {α : Type} {cmp : α → α → Ordering} {p : α → Prop} (h : IsTotalPreorderOn cmp p)
include h

/-- Inserting keeps a list descending. -/
theorem pairwise_insertDescending {x : α} {ys : List α} (hx : p x) (hys : ∀ y ∈ ys, p y)
    (hsorted : ys.Pairwise fun a b => (cmp b a).isLE = true) :
    (insertDescending (fun a b => cmp a b = .lt) x ys).Pairwise fun a b => (cmp b a).isLE = true := by
  induction ys with
  | nil => simp [insertDescending]
  | cons y ys ih =>
    obtain ⟨hfirst, hrest⟩ := List.pairwise_cons.mp hsorted
    unfold insertDescending
    split
    · next hless =>
      refine List.pairwise_cons.mpr ⟨fun z hz => ?_, ih (fun z hz => hys z (by simp [hz])) hrest⟩
      rcases List.mem_cons.mp ((perm_insertDescending _ x ys).mem_iff.mp hz) with rfl | hz
      · rw [of_decide_eq_true hless]
        rfl
      · exact hfirst z hz
    · next hless =>
      have hyx : (cmp y x).isLE = true := by
        rw [h.swap x y hx (hys y (by simp))]
        cases hxy : cmp x y <;> simp_all
      refine List.pairwise_cons.mpr ⟨fun z hz => ?_, hsorted⟩
      rcases List.mem_cons.mp hz with rfl | hz
      · exact hyx
      · exact h.le_trans z y x (hys z (by simp [hz])) (hys y (by simp)) hx (hfirst z hz) hyx

theorem pairwise_insertionSort {xs : List α} (hxs : ∀ x ∈ xs, p x) :
    (insertionSort (fun a b => cmp a b = .lt) xs).Pairwise fun a b => (cmp a b).isLE = true := by
  have hfold (done xs : List α) (hdone : ∀ x ∈ done, p x) (hxs : ∀ x ∈ xs, p x)
      (hsorted : done.Pairwise fun a b => (cmp b a).isLE = true) :
      (xs.foldl (fun sorted x => insertDescending (fun a b => cmp a b = .lt) x sorted) done).Pairwise
        fun a b => (cmp b a).isLE = true := by
    induction xs generalizing done with
    | nil => exact hsorted
    | cons x xs ih =>
      have hx := hxs x (by simp)
      refine ih _ (fun y hy => ?_) (fun y hy => hxs y (by simp [hy])) (h.pairwise_insertDescending hx hdone hsorted)
      rcases List.mem_cons.mp ((perm_insertDescending _ x done).mem_iff.mp hy) with rfl | hy
      · exact hx
      · exact hdone y hy
  exact List.pairwise_reverse.mpr (hfold [] xs (by simp) hxs .nil)

end IsTotalPreorderOn

theorem perm_sortRecords (sorts : List SortKey) (records : List Record) :
    (sortRecords sorts records).Perm records := by
  unfold sortRecords
  split
  · exact .refl _
  · exact perm_insertionSort _ records

theorem sortRecords_pair (sorts : List SortKey) (a b : Record) :
    sortRecords sorts [a, b] = if compareRecords b a sorts = .lt then [b, a] else [a, b] := by
  cases sorts with
  | nil => rfl
  | cons k ks =>
    by_cases h : compareRecords b a (k :: ks) = .lt
    · simp [sortRecords, insertionSort, insertDescending, h]
    · simp [sortRecords, insertionSort, insertDescending, h]

/-- Records that the sorts can deal with are put in order. -/
theorem pairwise_sortRecords {sorts : List SortKey} {records : List Record}
    (h : IsTotalPreorderOn (fun a b => compareRecords a b sorts) (· ∈ records)) :
    (sortRecords sorts records).Pairwise fun a b => (compareRecords a b sorts).isLE = true := by
  unfold sortRecords
  split
  · next hempty =>
    rw [List.isEmpty_iff.mp hempty]
    exact List.pairwise_of_forall fun _ _ => rfl
  · exact h.pairwise_insertionSort fun _ hr => hr

end EntityMapping
