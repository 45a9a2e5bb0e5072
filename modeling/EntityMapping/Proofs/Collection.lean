import EntityMapping.Collection
import EntityMapping.Proofs.Store.Order

/-!
# What a collection holds

Lists, deques and queues hold the objects that were added to them. Sets hold those that are equal to none that was
added before, sorted sets in ascending order. For that, the order of the objects has to be one.

* `pairwise_insertAscending`, `mem_insertAscending_iff` — what a sorted set holds after one more object
* `CollectionKind.holds_ofList` — what a collection holds in the end
-/

namespace EntityMapping

variable {order : Object → Object → Ordering} {P : Object → Prop} {kind : CollectionKind} {o p : Object}
  {items objects : List Object}

namespace IsTotalPreorderOn

theorem lt_trans {α : Type} {cmp : α → α → Ordering} {P : α → Prop} (h : IsTotalPreorderOn cmp P) {a b c : α}
    (ha : P a) (hb : P b) (hc : P c) (hab : cmp a b = .lt) (hbc : cmp b c = .lt) : cmp a c = .lt := by
  have hac := h.le_trans a b c ha hb hc (by rw [hab]; rfl) (by rw [hbc]; rfl)
  cases hcmp : cmp a c with
  | lt => rfl
  | eq =>
    -- if the ends were equal, what is in between would not be above the first one
    have hca : cmp c a = .eq := by rw [h.swap a c ha hc, hcmp]; rfl
    have hcb := h.le_trans c a b hc ha hb (by rw [hca]; rfl) (by rw [hab]; rfl)
    rw [h.swap b c hb hc, hbc] at hcb
    exact absurd hcb (by decide)
  | gt =>
    rw [hcmp] at hac
    exact absurd hac (by decide)

end IsTotalPreorderOn

/-! ## The first of equal objects -/

/-- Whether an object is in a list, and no object before it is equal to it. -/
def IsFirst (order : Object → Object → Ordering) (objects : List Object) (p : Object) : Prop :=
  ∃ before after, objects = before ++ p :: after ∧ ∀ q ∈ before, order q p ≠ .eq

theorem IsFirst.mem (h : IsFirst order objects p) : p ∈ objects := by
  obtain ⟨before, after, rfl, -⟩ := h
  simp

theorem isFirst_concat_iff :
    IsFirst order (objects ++ [o]) p ↔ IsFirst order objects p ∨ p = o ∧ ∀ q ∈ objects, order q o ≠ .eq := by
  constructor
  · rintro ⟨before, after, heq, hbefore⟩
    rcases after.eq_nil_or_concat with rfl | ⟨after, x, rfl⟩
    · obtain ⟨rfl, hlast⟩ := List.append_inj' heq rfl
      obtain rfl := (List.cons.inj hlast).1
      exact .inr ⟨rfl, hbefore⟩
    · rw [List.concat_eq_append, ← List.cons_append, ← List.append_assoc] at heq
      exact .inl ⟨before, after, (List.append_inj' heq rfl).1, hbefore⟩
  · rintro (⟨before, after, rfl, hbefore⟩ | ⟨rfl, hall⟩)
    · exact ⟨before, after ++ [o], by simp, hbefore⟩
    · exact ⟨objects, [], rfl, hall⟩

/-- Each object is equal to a first one. -/
theorem exists_isFirst (h : IsTotalPreorderOn order P) (hobjects : ∀ q ∈ objects, P q) :
    ∀ q ∈ objects, ∃ p, IsFirst order objects p ∧ order p q = .eq := by
  induction objects using List.reverseRecOn with
  | nil => simp
  | append_singleton objects o ih =>
    have hold : ∀ q ∈ objects, P q := fun q hq => hobjects q (List.mem_append_left _ hq)
    have ho : P o := hobjects o (by simp)
    intro q hq
    rcases List.mem_append.mp hq with hq | hq
    · obtain ⟨p, hp, heq⟩ := ih hold q hq
      exact ⟨p, isFirst_concat_iff.mpr (.inl hp), heq⟩
    · obtain rfl := List.mem_singleton.mp hq
      by_cases hnew : ∀ p ∈ objects, order p q ≠ .eq
      · exact ⟨q, isFirst_concat_iff.mpr (.inr ⟨rfl, hnew⟩), h.refl q ho⟩
      · push Not at hnew
        obtain ⟨p', hp', heq'⟩ := hnew
        obtain ⟨p, hp, heq⟩ := ih hold p' hp'
        exact ⟨p, isFirst_concat_iff.mpr (.inl hp),
          h.eq_trans p p' q (hold p hp.mem) (hold p' hp') ho heq heq'⟩

/-! ## One more object -/

section Insertion

variable (h : IsTotalPreorderOn order P) (ho : P o) (hitems : ∀ q ∈ items, P q)
  (hsorted : items.Pairwise fun a b => order a b = .lt)

theorem mem_or_eq_of_mem_insertAscending (hp : p ∈ insertAscending order o items) : p ∈ items ∨ p = o := by
  induction items with
  | nil => exact .inr (List.mem_singleton.mp hp)
  | cons q items ih =>
    rw [insertAscending] at hp
    split at hp
    · exact (List.mem_cons.mp hp).symm
    · exact .inl hp
    · rcases List.mem_cons.mp hp with rfl | hp
      · exact .inl List.mem_cons_self
      · exact (ih hp).imp_left (List.mem_cons_of_mem q)

include h ho hitems hsorted

/-- An ascending list stays one with an object that is inserted. -/
theorem pairwise_insertAscending : (insertAscending order o items).Pairwise fun a b => order a b = .lt := by
  induction items with
  | nil => exact List.pairwise_singleton _ _
  | cons q items ih =>
    obtain ⟨hq, hitems⟩ := List.forall_mem_cons.mp hitems
    obtain ⟨hbelow, hrest⟩ := List.pairwise_cons.mp hsorted
    rw [insertAscending]
    split
    · next hlt =>
      refine List.pairwise_cons.mpr ⟨List.forall_mem_cons.mpr ⟨hlt, fun x hx => ?_⟩, hsorted⟩
      exact h.lt_trans ho hq (hitems x hx) hlt (hbelow x hx)
    · exact hsorted
    · next hgt =>
      refine List.pairwise_cons.mpr ⟨fun x hx => ?_, ih hitems hrest⟩
      rcases mem_or_eq_of_mem_insertAscending hx with hx | rfl
      · exact hbelow x hx
      · rw [h.swap x q ho hq, hgt]
        rfl

/-- An object is inserted unless an equal one is there. -/
theorem mem_insertAscending_iff :
    p ∈ insertAscending order o items ↔ p ∈ items ∨ p = o ∧ ∀ q ∈ items, order q o ≠ .eq := by
  induction items with
  | nil => simp [insertAscending]
  | cons q items ih =>
    obtain ⟨hq, hitems⟩ := List.forall_mem_cons.mp hitems
    obtain ⟨hbelow, hrest⟩ := List.pairwise_cons.mp hsorted
    have hswap : order q o = (order o q).swap := h.swap o q ho hq
    rw [insertAscending]
    split
    · next hlt =>
      -- what is below the first one is below all of them
      have hdiffers : ∀ x ∈ q :: items, order x o ≠ .eq := by
        refine List.forall_mem_cons.mpr ⟨by simp [hswap, hlt], fun x hx => ?_⟩
        rw [h.swap o x ho (hitems x hx), h.lt_trans ho hq (hitems x hx) hlt (hbelow x hx)]
        decide
      rw [List.mem_cons, or_comm, and_iff_left hdiffers]
    · next heq =>
      refine ⟨.inl, fun hp => hp.resolve_right fun hnew => ?_⟩
      exact hnew.2 q List.mem_cons_self (by rw [hswap, heq]; rfl)
    · next hgt =>
      have hdiffers : order q o ≠ .eq := by simp [hswap, hgt]
      rw [List.mem_cons, ih hitems hrest, List.mem_cons, or_assoc, List.forall_mem_cons, and_iff_right hdiffers]

end Insertion

namespace CollectionKind

/-- What a collection holds of the objects that were added to it. -/
def Holds (order : Object → Object → Ordering) (objects items : List Object) : CollectionKind → Prop
  | set => items.Pairwise (fun a b => order a b ≠ .eq) ∧ ∀ p, p ∈ items ↔ IsFirst order objects p
  | sortedSet => items.Pairwise (fun a b => order a b = .lt) ∧ ∀ p, p ∈ items ↔ IsFirst order objects p
  | _ => items = objects

theorem ofList_concat : kind.ofList order (objects ++ [o]) = kind.add order (kind.ofList order objects) o := by
  rw [ofList, List.foldl_concat, ofList]

/-- A set takes an object unless an equal one is there. -/
theorem mem_add_set_iff : p ∈ set.add order items o ↔ p ∈ items ∨ p = o ∧ ∀ q ∈ items, order q o ≠ .eq := by
  rw [add]
  split
  · next hany =>
    obtain ⟨q, hq, heq⟩ := List.any_eq_true.mp hany
    exact ⟨.inl, fun hp => hp.resolve_right fun hnew => hnew.2 q hq (of_decide_eq_true heq)⟩
  · next hany =>
    have hdiffers : ∀ q ∈ items, order q o ≠ .eq := fun q hq heq =>
      hany (List.any_eq_true.mpr ⟨q, hq, decide_eq_true heq⟩)
    rw [List.mem_append, List.mem_singleton, and_iff_left hdiffers]

theorem pairwise_add_set (h : items.Pairwise fun a b => order a b ≠ .eq) :
    (set.add order items o).Pairwise fun a b => order a b ≠ .eq := by
  rw [add]
  split
  · exact h
  · next hany =>
    refine List.pairwise_append.mpr ⟨h, List.pairwise_singleton _ _, fun q hq x hx => ?_⟩
    obtain rfl := List.mem_singleton.mp hx
    exact fun heq => hany (List.any_eq_true.mpr ⟨q, hq, decide_eq_true heq⟩)

/-- If a list has the first ones of equal objects, it still has them with another object that is taken unless an equal
one is there. -/
theorem mem_iff_isFirst_concat {added : List Object} (h : IsTotalPreorderOn order P) (hobjects : ∀ q ∈ objects, P q)
    (ho : P o) (hitems : ∀ p, p ∈ items ↔ IsFirst order objects p)
    (hadded : ∀ p, p ∈ added ↔ p ∈ items ∨ p = o ∧ ∀ q ∈ items, order q o ≠ .eq) (p : Object) :
    p ∈ added ↔ IsFirst order (objects ++ [o]) p := by
  -- what is equal to any object is equal to the first one of its kind
  have hdiffers : (∀ q ∈ items, order q o ≠ .eq) ↔ ∀ q ∈ objects, order q o ≠ .eq := by
    refine ⟨fun hfirst q hq heq => ?_, fun hall q hq => hall q ((hitems q).mp hq).mem⟩
    obtain ⟨p, hp, hpq⟩ := exists_isFirst h hobjects q hq
    exact hfirst p ((hitems p).mpr hp) (h.eq_trans p q o (hobjects p hp.mem) (hobjects q hq) ho hpq heq)
  rw [hadded, hitems, hdiffers, isFirst_concat_iff]

/-- A collection holds what was added to it, in the way of its sort. -/
theorem holds_ofList (h : kind = .set ∨ kind = .sortedSet → IsTotalPreorderOn order P) (hobjects : ∀ q ∈ objects, P q) :
    kind.Holds order objects (kind.ofList order objects) := by
  cases kind with
  | list | deque | queue => exact ofList_of_not_set (by decide) (by decide) objects
  | set =>
    have h := h (.inl rfl)
    induction objects using List.reverseRecOn with
    | nil => exact ⟨.nil, by simp [ofList, IsFirst]⟩
    | append_singleton objects o ih =>
      obtain ⟨hobjects, ho⟩ := List.forall_mem_append.mp hobjects
      obtain ⟨hpairwise, hmem⟩ := ih hobjects
      rw [ofList_concat]
      exact ⟨pairwise_add_set hpairwise,
        mem_iff_isFirst_concat h hobjects (ho o (by simp)) hmem fun p => mem_add_set_iff⟩
  | sortedSet =>
    have h := h (.inr rfl)
    induction objects using List.reverseRecOn with
    | nil => exact ⟨.nil, by simp [ofList, IsFirst]⟩
    | append_singleton objects o ih =>
      obtain ⟨hobjects, ho⟩ := List.forall_mem_append.mp hobjects
      obtain ⟨hpairwise, hmem⟩ := ih hobjects
      have hitems : ∀ q ∈ sortedSet.ofList order objects, P q := fun q hq => hobjects q ((hmem q).mp hq).mem
      rw [ofList_concat]
      exact ⟨pairwise_insertAscending h (ho o (by simp)) hitems hpairwise,
        mem_iff_isFirst_concat h hobjects (ho o (by simp)) hmem fun p =>
          mem_insertAscending_iff h (ho o (by simp)) hitems hpairwise⟩

end CollectionKind
end EntityMapping
