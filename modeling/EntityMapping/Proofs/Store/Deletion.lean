import EntityMapping.Proofs.Store.Run
import EntityMapping.Proofs.Store.Sorting
import Mathlib

/-!
# What a deletion removes

A deletion removes the records that meet the condition of its query. It does not look at the window of the query, so
it removes what a selection shows only when the window shows all of them.

* `Removal` — a list from which some items were taken
* `Store.removal_delete` — what a deletion takes from a collection
* `Store.delete_eq_select_iff` — when this is what a selection shows
-/

namespace EntityMapping

/-- Whether taking some items out of a list leaves another one. -/
structure Removal {α : Type} (taken before after : List α) : Prop where
  /-- What is left is in its old order. -/
  sublist : after.Sublist before
  /-- The items that were taken are gone, each one as often as it was taken, and no others. -/
  perm : before.Perm (taken ++ after)

namespace Removal

variable {α : Type} {taken taken' before after : List α}

theorem of_perm (h : Removal taken before after) (htaken : taken'.Perm taken) : Removal taken' before after where
  sublist := h.sublist
  perm := h.perm.trans (htaken.append_right after).symm

theorem length_eq (h : Removal taken before after) : before.length = taken.length + after.length := by
  rw [h.perm.length_eq, List.length_append]

theorem of_filter (p : α → Bool) (before : List α) :
    Removal (before.filter p) before (before.filter fun a => !p a) where
  sublist := List.filter_sublist
  perm := (List.filter_append_perm p before).symm

end Removal

/-- A window shows all of a list if it leaves nothing out at the front and ends behind the list. -/
theorem DocumentQuery.length_window_eq_iff {α : Type} (q : DocumentQuery) (results : List α) :
    (q.window results).length = results.length ↔
      results = [] ∨ q.skip = 0 ∧ ∀ limit, q.limit = some limit → results.length ≤ limit.toNat := by
  have hskip : q.skip = 0 ↔ q.skip.toNat = 0 := UInt64.toNat_inj.symm
  rw [hskip, ← List.length_eq_zero_iff]
  cases hlimit : q.limit with
  | none =>
    simp only [window, hlimit, List.length_drop, reduceCtorEq, false_imp_iff, implies_true, and_true]
    omega
  | some limit =>
    simp only [window, hlimit, List.length_take, List.length_drop, Option.some.injEq, forall_eq']
    omega

theorem DocumentQuery.window_eq_self_iff {α : Type} (q : DocumentQuery) (results : List α) :
    q.window results = results ↔
      results = [] ∨ q.skip = 0 ∧ ∀ limit, q.limit = some limit → results.length ≤ limit.toNat := by
  rw [← q.length_window_eq_iff]
  exact ⟨congrArg List.length, (q.window_sublist results).eq_of_length⟩

namespace Store

/-- **A deletion takes the records that meet its condition out of their collection, counts them, and touches no other
collection.** -/
theorem removal_delete (s : Store) (q : DocumentQuery) :
    Removal (s.matching q) (s.collection q.entity) ((s.delete q).2.collection q.entity) ∧
      (s.delete q).1 = (s.matching q).length ∧
      ∀ name, name ≠ q.entity → (s.delete q).2.collection name = s.collection name := by
  have hafter : (s.delete q).2.collection q.entity = (s.collection q.entity).filter fun r => !q.accepts r := by
    rw [collection_delete, if_pos rfl]
  have hremoval : Removal (s.matching q) (s.collection q.entity) ((s.delete q).2.collection q.entity) := by
    rw [hafter]
    exact .of_filter q.accepts _
  refine ⟨hremoval, ?_, fun name hname => ?_⟩
  · have hcount : (s.delete q).1 =
        (s.collection q.entity).length - ((s.collection q.entity).filter fun r => !q.accepts r).length := rfl
    have hlength := hremoval.length_eq
    rw [hcount, ← hafter]
    omega
  · rw [collection_delete, if_neg hname]

/-- A selection shows all records that meet its condition, if its window does not leave any of them out. -/
theorem perm_iff_of_select {s : Store} {q : DocumentQuery} {shown : List Record} (h : s.select q = .ok shown) :
    shown.Perm (s.matching q) ↔
      s.matching q = [] ∨ q.skip = 0 ∧ ∀ limit, q.limit = some limit → (s.matching q).length ≤ limit.toNat := by
  have hsorted : (sortRecords q.sorts (s.matching q)).Perm (s.matching q) := perm_sortRecords _ _
  have hwindow := q.window_eq_self_iff (sortRecords q.sorts (s.matching q))
  rw [← List.length_eq_zero_iff, hsorted.length_eq, List.length_eq_zero_iff] at hwindow
  rw [← hwindow]
  constructor
  · intro hperm
    obtain ⟨-, rfl⟩ := select_eq_ok_iff.mp h
    exact (q.window_sublist _).eq_of_length (hperm.trans hsorted.symm).length_eq
  · intro hall
    obtain ⟨-, rfl⟩ := select_eq_ok_iff.mp h
    rw [hall]
    exact hsorted

/-- Whether a selection succeeds and a deletion by the same query removes what it shows. -/
def RemovesShown (s : Store) (q : DocumentQuery) : Prop :=
  ∃ shown, s.select q = .ok shown ∧ (s.delete q).1 = shown.length ∧
    Removal shown (s.collection q.entity) ((s.delete q).2.collection q.entity)

/-- **A deletion removes what a selection by the same query shows exactly if the records that meet its condition can be
sorted and the window of the query leaves out none of them.** -/
theorem delete_eq_select_iff (s : Store) (q : DocumentQuery) :
    s.RemovesShown q ↔ Sortable q.sorts (s.matching q) ∧
      (s.matching q = [] ∨ q.skip = 0 ∧ ∀ limit, q.limit = some limit → (s.matching q).length ≤ limit.toNat) := by
  obtain ⟨hremoval, hcount, -⟩ := s.removal_delete q
  constructor
  · rintro ⟨shown, hselect, -, hshown⟩
    refine ⟨(select_eq_ok_iff.mp hselect).1, (perm_iff_of_select hselect).mp ?_⟩
    exact (List.perm_append_right_iff _).mp (hshown.perm.symm.trans hremoval.perm)
  · rintro ⟨hsortable, hwindow⟩
    have hselect := select_eq_ok_iff.mpr ⟨hsortable, rfl⟩
    have hperm := (perm_iff_of_select hselect).mpr hwindow
    exact ⟨_, hselect, hcount.trans hperm.length_eq.symm, hremoval.of_perm hperm⟩

/-- A store in which two persons were inserted. -/
def personStore : Store :=
  (empty "_id" 1).run [.insert ⟨"Person", [("name", .text "Ada")]⟩, .insert ⟨"Person", [("name", .text "Bob")]⟩]

/-- The query for the first person. -/
def firstPerson : DocumentQuery := { DocumentQuery.select "Person" with limit := some 1 }

/-- A selection of the first person shows one of two, and a deletion of the first person removes both. -/
theorem delete_removes_unselected :
    (personStore.select firstPerson = .ok [⟨"Person", [("name", .text "Ada"), ("_id", .integer 1)]⟩] ∧
        (personStore.delete firstPerson).1 = 2 ∧ (personStore.delete firstPerson).2.collection "Person" = []) ∧
      ¬ personStore.RemovesShown firstPerson := by
  have hselect : personStore.select firstPerson = .ok [⟨"Person", [("name", .text "Ada"), ("_id", .integer 1)]⟩] := by
    cbv
  have hcount : (personStore.delete firstPerson).1 = 2 := by cbv
  refine ⟨⟨hselect, hcount, by cbv⟩, ?_⟩
  rintro ⟨shown, hshown, hlength, -⟩
  obtain rfl := Except.ok.inj (hselect.symm.trans hshown)
  rw [hcount] at hlength
  exact absurd hlength (by decide)

end Store
end EntityMapping
