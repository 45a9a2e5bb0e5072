import EntityMapping.Pagination
import EntityMapping.Value

/-!
# The order of records

Records are sorted by the values of some properties. Values of one kind are compared as what they are, numbers of
both kinds as doubles; what cannot be compared counts as equal. A record without the property comes first.

Sorting inserts one record after the other behind the last one that it is not less than, so records that are equal
keep their order. This is what becomes of a short list in any case. A longer one is sorted in other ways, which have the
same outcome if the comparison is a total preorder on the list. If it is none, no outcome is promised, and the sort may
break off.
-/

namespace EntityMapping

/-- The order of two doubles; a number that is none is equal to everything. -/
def compareDoubles (x y : Float) : Ordering :=
  if x < y then .lt else if y < x then .gt else .eq

/-- The order of two values. -/
def Value.compare : Value → Value → Ordering
  | .text a, .text b => Ord.compare a b
  | .boolean a, .boolean b => Ord.compare a b
  | .timestamp a, .timestamp b => a.compare b
  | .date a, .date b => a.compare b
  | .uuid a, .uuid b => a.compare b
  | a, b =>
    match a.asDouble?, b.asDouble? with
    | some x, some y => compareDoubles x y
    | _, _ => .eq

/-- The order of two values that may be missing. -/
def Value.compareMissing : Option Value → Option Value → Ordering
  | some a, some b => a.compare b
  | none, some _ => .lt
  | some _, none => .gt
  | none, none => .eq

/-- The order of two records: the first sort in which they differ decides. -/
def compareRecords (a b : Record) : List SortKey → Ordering
  | [] => .eq
  | s :: ss =>
    (s.direction.orient (Value.compareMissing (a.get? s.property) (b.get? s.property))).then
      (compareRecords a b ss)

/-! ## Sorting -/

/-- Whether a comparison is a total preorder on the items with a property. -/
structure IsTotalPreorderOn {α : Type} (cmp : α → α → Ordering) (p : α → Prop) : Prop where
  refl : ∀ a, p a → cmp a a = .eq
  swap : ∀ a b, p a → p b → cmp b a = (cmp a b).swap
  le_trans : ∀ a b c, p a → p b → p c → (cmp a b).isLE = true → (cmp b c).isLE = true → (cmp a c).isLE = true
  eq_trans : ∀ a b c, p a → p b → p c → cmp a b = .eq → cmp b c = .eq → cmp a c = .eq

/-- On a list this is decided by looking at all its items. -/
instance {α : Type} (cmp : α → α → Ordering) (as : List α) : Decidable (IsTotalPreorderOn cmp (· ∈ as)) :=
  decidable_of_decidable_of_iff (p := ∀ a ∈ as, cmp a a = .eq ∧ ∀ b ∈ as, cmp b a = (cmp a b).swap ∧ ∀ c ∈ as,
      ((cmp a b).isLE = true → (cmp b c).isLE = true → (cmp a c).isLE = true) ∧
        (cmp a b = .eq → cmp b c = .eq → cmp a c = .eq))
    ⟨fun h => ⟨fun a ha => (h a ha).1, fun a b ha hb => ((h a ha).2 b hb).1,
        fun a b c ha hb hc => (((h a ha).2 b hb).2 c hc).1, fun a b c ha hb hc => (((h a ha).2 b hb).2 c hc).2⟩,
      fun h a ha => ⟨h.refl a ha, fun b hb => ⟨h.swap a b ha hb, fun c hc =>
        ⟨h.le_trans a b c ha hb hc, h.eq_trans a b c ha hb hc⟩⟩⟩⟩

/-- Inserts an item in front of the items at the front of a descending list that it is not less than. -/
def insertDescending {α : Type} (less : α → α → Bool) (x : α) : List α → List α
  | [] => [x]
  | y :: ys => if less x y then y :: insertDescending less x ys else x :: y :: ys

/-- Sorts a list so that equal items keep their order. -/
def insertionSort {α : Type} (less : α → α → Bool) (xs : List α) : List α :=
  (xs.foldl (fun sorted x => insertDescending less x sorted) []).reverse

/-- Inserting loses nothing and adds nothing else. -/
theorem perm_insertDescending {α : Type} (less : α → α → Bool) (x : α) (ys : List α) :
    (insertDescending less x ys).Perm (x :: ys) := by
  induction ys with
  | nil => exact .refl _
  | cons y ys ih =>
    unfold insertDescending
    split
    · exact (ih.cons y).trans (.swap x y ys)
    · exact .refl _

/-- Sorting loses nothing and adds nothing. -/
theorem perm_insertionSort {α : Type} (less : α → α → Bool) (xs : List α) :
    (insertionSort less xs).Perm xs := by
  have hfold (done xs : List α) :
      (xs.foldl (fun sorted x => insertDescending less x sorted) done).Perm (xs ++ done) := by
    induction xs generalizing done with
    | nil => exact .refl _
    | cons x xs ih =>
      refine (ih (insertDescending less x done)).trans ?_
      exact ((perm_insertDescending less x done).append_left xs).trans List.perm_middle
  unfold insertionSort
  have := hfold [] xs
  rw [List.append_nil] at this
  exact (List.reverse_perm _).trans this

/-- The records in the order of some sorts, if they can be sorted by them. -/
def sortRecords (sorts : List SortKey) (records : List Record) : List Record :=
  if sorts.isEmpty then records
  else insertionSort (fun a b => compareRecords a b sorts = .lt) records

/-- The length up to which a list is sorted by inserting one record after the other. -/
def insertionLimit : Nat := 20

/-- Whether it is promised what becomes of some records when they are sorted. -/
def Sortable (sorts : List SortKey) (records : List Record) : Prop :=
  records.length ≤ insertionLimit ∨ IsTotalPreorderOn (fun a b => compareRecords a b sorts) (· ∈ records)

instance (sorts : List SortKey) (records : List Record) : Decidable (Sortable sorts records) :=
  inferInstanceAs (Decidable (_ ∨ _))

/-- Sorts records. There is no outcome if none is promised. -/
def sortRecords? (sorts : List SortKey) (records : List Record) : Option (List Record) :=
  if Sortable sorts records then some (sortRecords sorts records) else none

theorem sortRecords?_eq_some_iff {sorts : List SortKey} {records sorted : List Record} :
    sortRecords? sorts records = some sorted ↔ Sortable sorts records ∧ sortRecords sorts records = sorted := by
  unfold sortRecords?
  split
  · next h => simp [h]
  · next h => simp [h]

/-- Without sorts there is nothing to do. -/
theorem sortable_nil (records : List Record) : Sortable [] records :=
  .inr ⟨fun _ _ => rfl, fun _ _ _ _ => rfl, fun _ _ _ _ _ _ _ _ => rfl, fun _ _ _ _ _ _ _ _ => rfl⟩

end EntityMapping
