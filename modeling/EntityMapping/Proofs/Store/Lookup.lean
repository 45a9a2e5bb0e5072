import EntityMapping.Proofs.Store.Deletion
import EntityMapping.Proofs.Store.Invariant

/-!
# Records with an id

In a valid store at most one record of a name has a given id. This module says which record that is after each
of the calls that change a store.

* `Store.having` — the records of a name that have an id
* `Store.Valid.having_eq` — there is at most one
* `Store.having_of_appended`, `Store.having_of_replaced`, `Store.having_delete` — which have it after an insertion, an
  update and a deletion
-/

namespace EntityMapping

namespace Store

/-- The records of a name that have an id. -/
def having (s : Store) (name : String) (id : Value) : List Record := (s.collection name).filter (s.hasId id)

/-- The query for the records of a name with an id. -/
def byId (s : Store) (name : String) (id : Value) : DocumentQuery := (DocumentQuery.select name).whereEq s.idField id

variable {s t : Store} {name : String} {id : Value} {r : Record}

theorem hasId_of_get? {v : Value} (h : r.get? s.idField = some v) : s.hasId id r = v.eqv id := by
  rw [hasId, h, Option.any_some]

theorem hasId_congr (h : t.idField = s.idField) (id : Value) : t.hasId id = s.hasId id := by
  funext r
  rw [hasId, hasId, h]

theorem hasId_integer_iff {n : Int64} {r : Record} :
    s.hasId (.integer n) r = true ↔ r.get? s.idField = some (.integer n) := by
  rw [hasId, Option.any_eq_true_iff_get]
  constructor
  · rintro ⟨hsome, h⟩
    obtain ⟨v, hv⟩ := Option.isSome_iff_exists.mp hsome
    simp only [hv, Option.get_some] at h
    cases v <;> simp_all [Value.eqv]
  · intro h
    exact ⟨by simp [h], by simp [h, Value.eqv]⟩

/-- Records that have the same plain id are equal in their ids. -/
theorem Valid.sameId_of_hasId (h : s.Valid) {a b : Record} (ha : a ∈ s.collection name) (hb : b ∈ s.collection name)
    (haid : s.hasId id a = true) (hbid : s.hasId id b = true) : SameId s.idField a b := by
  obtain ⟨x, hx, hplainx⟩ := h.identified name a ha
  obtain ⟨y, hy, hplainy⟩ := h.identified name b hb
  rw [hasId_of_get? hx] at haid
  rw [hasId_of_get? hy] at hbid
  exact ⟨x, y, hx, hy, Value.eqv_trans_of_isPlain hplainx haid (Value.eqv_symm_of_isPlain hplainy hbid)⟩

theorem Valid.length_having_le (h : s.Valid) (name : String) (id : Value) : (s.having name id).length ≤ 1 := by
  have hdistinct : (s.having name id).Pairwise fun a b => ¬ SameId s.idField a b := (h.distinct name).filter _
  match hrecords : s.having name id with
  | [] => simp
  | [a] => simp
  | a :: b :: rs =>
    rw [hrecords] at hdistinct
    have hmem (c : Record) (hc : c ∈ a :: b :: rs) : c ∈ s.collection name ∧ s.hasId id c = true :=
      List.mem_filter.mp (hrecords ▸ hc : c ∈ s.having name id)
    obtain ⟨ha, haid⟩ := hmem a (by simp)
    obtain ⟨hb, hbid⟩ := hmem b (by simp)
    exact absurd (h.sameId_of_hasId ha hb haid hbid) ((List.pairwise_cons.mp hdistinct).1 b (by simp))

/-- The record of a name that has an id is the only one. -/
theorem Valid.having_eq (h : s.Valid) (hr : r ∈ s.collection name) (hid : s.hasId id r = true) :
    s.having name id = [r] := by
  have hmem : r ∈ s.having name id := List.mem_filter.mpr ⟨hr, hid⟩
  obtain ⟨a, ha⟩ := List.length_eq_one_iff.mp
    (Nat.le_antisymm (h.length_having_le name id) (List.length_pos_of_mem hmem))
  rw [ha] at hmem ⊢
  rw [List.mem_singleton.mp hmem]

/-! ## After a call -/

theorem having_congr (hfield : t.idField = s.idField) (h : t.collection name = s.collection name) :
    t.having name id = s.having name id := by
  rw [having, having, h, hasId_congr hfield]

/-- An insertion changes nothing for other ids. -/
theorem having_of_appended (hfield : t.idField = s.idField)
    (h : ∀ name, t.collection name = if name = r.name then s.collection r.name ++ [r] else s.collection name)
    (hid : s.hasId id r = false) : t.having name id = s.having name id := by
  by_cases hname : name = r.name
  · rw [having, having, h, if_pos hname, hasId_congr hfield, List.filter_append, hname]
    simp [hid]
  · exact having_congr hfield (by rw [h, if_neg hname])

/-- Nor does an update. -/
theorem having_of_replaced {pre post : List Record} {old : Record} (hfield : t.idField = s.idField)
    (hrecords : s.collection r.name = pre ++ old :: post)
    (h : ∀ name, t.collection name = if name = r.name then pre ++ r :: post else s.collection name)
    (hold : s.hasId id old = false) (hid : s.hasId id r = false) : t.having name id = s.having name id := by
  by_cases hname : name = r.name
  · rw [having, having, h, if_pos hname, hasId_congr hfield, hname, hrecords]
    simp [hid, hold]
  · exact having_congr hfield (by rw [h, if_neg hname])

theorem collection_delete_byId (s : Store) (name : String) (id : Value) (key : String) :
    (s.delete (s.byId name id)).2.collection key =
      if key = name then (s.collection name).filter fun r => !s.hasId id r else s.collection key :=
  s.collection_delete (s.byId name id) key

theorem having_delete (s : Store) (name : String) (id other : Value) :
    (s.delete (s.byId name id)).2.having name other =
      (s.collection name).filter fun r => s.hasId other r && !s.hasId id r := by
  rw [having, collection_delete_byId, if_pos rfl, List.filter_filter]
  rfl

/-- A deletion of an id leaves no record that has it. -/
theorem having_delete_self (s : Store) (name : String) (id : Value) :
    (s.delete (s.byId name id)).2.having name id = [] := by
  rw [having_delete, List.filter_eq_nil_iff]
  simp

/-- A deletion changes nothing for ids that no record has together with the one that is deleted. -/
theorem having_delete_of_ne {other : Value}
    (h : ∀ r ∈ s.collection name, s.hasId other r = true → s.hasId id r = false) :
    (s.delete (s.byId name id)).2.having name other = s.having name other := by
  rw [having_delete, having]
  refine List.filter_congr fun r hr => ?_
  cases hother : s.hasId other r with
  | false => rfl
  | true => rw [h r hr hother]; rfl

/-- A deletion counts the records that had the id. -/
theorem length_delete (s : Store) (name : String) (id : Value) :
    (s.delete (s.byId name id)).1 = (s.having name id).length ∧
      (s.collection name).length =
        ((s.delete (s.byId name id)).2.collection name).length + (s.having name id).length := by
  obtain ⟨hremoval, hcount, -⟩ := s.removal_delete (s.byId name id)
  exact ⟨hcount, hremoval.length_eq.trans (Nat.add_comm _ _)⟩

end Store
end EntityMapping
