import EntityMapping.Proofs.Store.Run
import EntityMapping.Proofs.Value.Equality
import Mathlib.Data.List.Nodup

/-!
# What holds of every store

A store that is used by calls stays *keyed*: its records stand under their names and have ids, and no two records
of a name have equal ids, as far as these are plain. It is *valid* if all of them are. An update replaces a record by
one whose id is merely equal to the old one, not the same; that it is not equal to any other id either follows because
equality of plain ids can be chained.

The ids that a store gives out are the numbers from its first one on. The counter starts over after the last
number, so they differ until all numbers are used up.

* `Store.Keyed`, `Store.Keyed.run` — what holds of every store
* `Store.Valid` — what holds of those with plain ids
* `Store.Valid.step`, `Store.Valid.run` — one call keeps it, and so does a run
* `Store.run_ids_distinct` — what this means for the records of a store that started empty, and for its ids
-/

namespace EntityMapping

/-- Whether two records have equal ids. -/
def SameId (idField : String) (a b : Record) : Prop :=
  ∃ x y, a.get? idField = some x ∧ b.get? idField = some y ∧ x.eqv y = true

/-- Whether the id of a record is plain, if it has one. -/
def HasPlainId (idField : String) (r : Record) : Prop :=
  ∀ id, r.get? idField = some id → id.isPlain = true

namespace Store

/-- What holds of every store, whatever its ids are. -/
structure Keyed (s : Store) : Prop where
  named : ∀ name, ∀ r ∈ s.collection name, r.name = name
  identified : ∀ name, ∀ r ∈ s.collection name, ∃ id, r.get? s.idField = some id
  distinct : ∀ name, (s.collection name).Pairwise fun a b => HasPlainId s.idField a → ¬ SameId s.idField a b

/-- What holds of every store whose records were given plain ids. -/
structure Valid (s : Store) : Prop where
  named : ∀ name, ∀ r ∈ s.collection name, r.name = name
  identified : ∀ name, ∀ r ∈ s.collection name, ∃ id, r.get? s.idField = some id ∧ id.isPlain = true
  distinct : ∀ name, (s.collection name).Pairwise fun a b => ¬ SameId s.idField a b

theorem valid_iff_keyed {s : Store} :
    s.Valid ↔ s.Keyed ∧ ∀ name, ∀ r ∈ s.collection name, HasPlainId s.idField r := by
  constructor
  · intro h
    refine ⟨⟨h.named, fun name r hr => ?_, fun name => ?_⟩, ?_⟩
    · obtain ⟨id, hid, -⟩ := h.identified name r hr
      exact ⟨id, hid⟩
    · refine (h.distinct name).imp ?_
      intro a b hne _
      exact hne
    · intro name r hr id hid
      obtain ⟨id', hid', hplain⟩ := h.identified name r hr
      exact Option.some.inj (hid'.symm.trans hid) ▸ hplain
  · rintro ⟨h, hplain⟩
    refine ⟨h.named, fun name r hr => ?_, fun name => ?_⟩
    · obtain ⟨id, hid⟩ := h.identified name r hr
      exact ⟨id, hid, hplain name r hr id hid⟩
    · exact (h.distinct name).imp_of_mem fun {a _} ha _ hne => hne (hplain name a ha)

theorem keyed_empty (idField : String) (start : Int64) : (empty idField start).Keyed where
  named := by simp
  identified := by simp
  distinct := by simp

theorem valid_empty (idField : String) (start : Int64) : (empty idField start).Valid :=
  valid_iff_keyed.mpr ⟨keyed_empty idField start, by simp⟩

/-! ## Steps -/

/-- With the same collections, the same holds. -/
theorem Keyed.of_same {s t : Store} (h : s.Keyed) (hfield : t.idField = s.idField)
    (hcollection : ∀ name, t.collection name = s.collection name) : t.Keyed where
  named name := by rw [hcollection]; exact h.named name
  identified name := by rw [hcollection, hfield]; exact h.identified name
  distinct name := by rw [hcollection, hfield]; exact h.distinct name

/-- With another collection of one name, it is to be shown of that one only. -/
theorem Keyed.of_put {s t : Store} {key : String} {records : List Record} (h : s.Keyed)
    (hfield : t.idField = s.idField)
    (hcollection : ∀ name, t.collection name = if name = key then records else s.collection name)
    (hnamed : ∀ r ∈ records, r.name = key)
    (hidentified : ∀ r ∈ records, ∃ id, r.get? s.idField = some id)
    (hdistinct : records.Pairwise fun a b => HasPlainId s.idField a → ¬ SameId s.idField a b) : t.Keyed where
  named name := by
    rw [hcollection]
    split
    · next hname => rw [hname]; exact hnamed
    · exact h.named name
  identified name := by
    rw [hcollection, hfield]
    split
    · exact hidentified
    · exact h.identified name
  distinct name := by
    rw [hcollection, hfield]
    split
    · exact hdistinct
    · exact h.distinct name

theorem not_sameId_of_hasId {s : Store} {id : Value} {a r : Record} (h : s.hasId id a = false)
    (hr : r.get? s.idField = some id) : ¬ SameId s.idField a r := by
  rintro ⟨x, y, hx, hy, hxy⟩
  rw [hr] at hy
  injection hy with hy
  subst hy
  simp [hasId, hx, hxy] at h

/-- A record that has a plain id has nothing else as its id. -/
theorem hasPlainId_of_hasId {s : Store} {id : Value} {r : Record} (h : s.hasId id r = true)
    (hid : id.isPlain = true) : HasPlainId s.idField r := by
  intro v hv
  rw [hasId, hv, Option.any_some] at h
  cases v with
  | array | record | records => cases id <;> simp_all [Value.eqv, Value.isPlain]
  | _ => rfl

/-- What differs from a record in its id differs from every record with an equal id. -/
theorem not_sameId_of_eqv {s : Store} {id : Value} {old r b : Record} (hold : s.hasId id old = true)
    (hplain : HasPlainId s.idField old) (hr : r.get? s.idField = some id)
    (h : ¬ SameId s.idField old b) : ¬ SameId s.idField r b := by
  rintro ⟨x, y, hx, hy, hxy⟩
  rw [hr] at hx
  injection hx with hx
  subst hx
  obtain ⟨v, hv, hvx⟩ := (Option.any_eq_true _ _).mp hold
  exact h ⟨v, y, hv, hy, Value.eqv_trans_of_isPlain (hplain v hv) hvx hxy⟩

theorem Keyed.insert {s : Store} (h : s.Keyed) (r : Record) : (s.insert r).2.Keyed := by
  obtain ⟨hname, hget, -, -⟩ := s.identify_spec r
  rcases s.insert_cases r with ⟨-, -, hcollection⟩ | ⟨hfresh, -, hcollection⟩
  · exact h.of_same (s.idField_insert r) hcollection
  · refine h.of_put (s.idField_insert r) hcollection ?_ ?_ ?_
    · intro a ha
      rcases List.mem_append.mp ha with ha | ha
      · exact h.named r.name a ha
      · rw [List.mem_singleton.mp ha, hname]
    · intro a ha
      rcases List.mem_append.mp ha with ha | ha
      · exact h.identified r.name a ha
      · rw [List.mem_singleton.mp ha]
        exact ⟨_, hget⟩
    · refine List.pairwise_append.mpr ⟨h.distinct r.name, List.pairwise_singleton _ _, ?_⟩
      intro a ha b hb _
      rw [List.mem_singleton.mp hb]
      exact not_sameId_of_hasId (hfresh a ha) hget

theorem Keyed.update {s : Store} (h : s.Keyed) (r : Record) : (s.update r).2.Keyed := by
  rcases s.update_cases r with ⟨-, hsame⟩ | ⟨id, pre, old, post, hid, hrecords, hold, hpre, -, hcollection⟩
  · rw [hsame]
    exact h
  · have hnamed := h.named r.name
    have hidentified := h.identified r.name
    have hdistinct := h.distinct r.name
    rw [hrecords] at hnamed hidentified hdistinct
    obtain ⟨hpre', hpost', hcross⟩ := List.pairwise_append.mp hdistinct
    obtain ⟨holdpost, hpost'⟩ := List.pairwise_cons.mp hpost'
    refine h.of_put (s.idField_update r) hcollection ?_ ?_ ?_
    · intro a ha
      rcases List.mem_append.mp ha with ha | ha
      · exact hnamed a (List.mem_append_left _ ha)
      · rcases List.mem_cons.mp ha with rfl | ha
        · rfl
        · exact hnamed a (List.mem_append_right _ (List.mem_cons_of_mem _ ha))
    · intro a ha
      rcases List.mem_append.mp ha with ha | ha
      · exact hidentified a (List.mem_append_left _ ha)
      · rcases List.mem_cons.mp ha with rfl | ha
        · exact ⟨id, hid⟩
        · exact hidentified a (List.mem_append_right _ (List.mem_cons_of_mem _ ha))
    · refine List.pairwise_append.mpr ⟨hpre', List.pairwise_cons.mpr ⟨?_, hpost'⟩, ?_⟩
      -- the records behind differ from the old one, those in front were searched
      · intro b hb hr
        have hplain : HasPlainId s.idField old := hasPlainId_of_hasId hold (hr id hid)
        exact not_sameId_of_eqv hold hplain hid (holdpost b hb hplain)
      · intro a ha b hb
        rcases List.mem_cons.mp hb with rfl | hb
        · exact fun _ => not_sameId_of_hasId (hpre a ha) hid
        · exact hcross a ha b (List.mem_cons_of_mem _ hb)

theorem Keyed.delete {s : Store} (h : s.Keyed) (q : DocumentQuery) : (s.delete q).2.Keyed :=
  h.of_put rfl (s.collection_delete q) (fun r hr => h.named q.entity r (List.mem_of_mem_filter hr))
    (fun r hr => h.identified q.entity r (List.mem_of_mem_filter hr))
    ((h.distinct q.entity).filter _)

theorem Keyed.step {s : Store} (h : s.Keyed) (call : Call) : (s.step call).Keyed := by
  cases call with
  | insert r => exact h.insert r
  | update r => exact h.update r
  | delete q => exact h.delete q
  | select | count => exact h

theorem Keyed.run {s : Store} (h : s.Keyed) (calls : List Call) : (s.run calls).Keyed := by
  induction calls generalizing s with
  | nil => exact h
  | cons call calls ih => exact ih (h.step call)

/-! ## Steps with plain ids -/

theorem isPlain_identify (s : Store) {r : Record} (hr : HasPlainId s.idField r) :
    (s.identify r).1.2.isPlain = true := by
  unfold identify
  cases h : r.get? s.idField with
  | some id => exact hr id h
  | none => rfl

/-- What is stored after an insertion was stored before, or is what was inserted. -/
theorem mem_collection_insert {s : Store} {r a : Record} {name : String}
    (h : a ∈ (s.insert r).2.collection name) :
    a ∈ s.collection name ∨ name = r.name ∧ a = (s.identify r).1.1 := by
  rcases s.insert_cases r with ⟨-, -, hcollection⟩ | ⟨-, -, hcollection⟩
  · exact .inl (hcollection name ▸ h)
  · rw [hcollection] at h
    split at h
    · next hname =>
      rcases List.mem_append.mp h with h | h
      · exact .inl (hname ▸ h)
      · exact .inr ⟨hname, List.mem_singleton.mp h⟩
    · exact .inl h

theorem mem_collection_update {s : Store} {r a : Record} {name : String}
    (h : a ∈ (s.update r).2.collection name) : a ∈ s.collection name ∨ name = r.name ∧ a = r := by
  rcases s.update_cases r with ⟨-, hsame⟩ | ⟨id, pre, old, post, -, hrecords, -, -, -, hcollection⟩
  · exact .inl (hsame ▸ h)
  · rw [hcollection] at h
    split at h
    · next hname =>
      rw [← hname] at hrecords
      rw [hrecords]
      rcases List.mem_append.mp h with h | h
      · exact .inl (List.mem_append_left _ h)
      · rcases List.mem_cons.mp h with h | h
        · exact .inr ⟨hname, h⟩
        · exact .inl (List.mem_append_right _ (List.mem_cons_of_mem _ h))
    · exact .inl h

theorem mem_collection_delete {s : Store} {q : DocumentQuery} {a : Record} {name : String}
    (h : a ∈ (s.delete q).2.collection name) : a ∈ s.collection name := by
  rw [collection_delete] at h
  split at h
  · next hname => exact hname ▸ List.mem_of_mem_filter h
  · exact h

theorem Valid.insert {s : Store} (h : s.Valid) {r : Record} (hr : HasPlainId s.idField r) :
    (s.insert r).2.Valid := by
  obtain ⟨hkeyed, hplain⟩ := valid_iff_keyed.mp h
  refine valid_iff_keyed.mpr ⟨hkeyed.insert r, fun name a ha => ?_⟩
  rw [s.idField_insert r]
  rcases mem_collection_insert ha with ha | ⟨-, rfl⟩
  · exact hplain name a ha
  · intro id hid
    rw [(s.identify_spec r).2.1] at hid
    exact Option.some.inj hid ▸ s.isPlain_identify hr

theorem Valid.update {s : Store} (h : s.Valid) {r : Record} (hr : HasPlainId s.idField r) :
    (s.update r).2.Valid := by
  obtain ⟨hkeyed, hplain⟩ := valid_iff_keyed.mp h
  refine valid_iff_keyed.mpr ⟨hkeyed.update r, fun name a ha => ?_⟩
  rw [s.idField_update r]
  rcases mem_collection_update ha with ha | ⟨-, rfl⟩
  · exact hplain name a ha
  · exact hr

theorem Valid.delete {s : Store} (h : s.Valid) (q : DocumentQuery) : (s.delete q).2.Valid := by
  obtain ⟨hkeyed, hplain⟩ := valid_iff_keyed.mp h
  exact valid_iff_keyed.mpr ⟨hkeyed.delete q, fun name a ha => hplain name a (mem_collection_delete ha)⟩

/-- Whether the record that a call stores has a plain id, if it has one. -/
def Call.PlainId (idField : String) : Call → Prop
  | .insert r => HasPlainId idField r
  | .update r => HasPlainId idField r
  | _ => True

/-- A call keeps a store valid. -/
theorem Valid.step {s : Store} (h : s.Valid) {call : Call} (hcall : call.PlainId s.idField) :
    (s.step call).Valid := by
  cases call with
  | insert r => exact h.insert hcall
  | update r => exact h.update hcall
  | delete q => exact h.delete q
  | select | count => exact h

/-- A run keeps a store valid. -/
theorem Valid.run {s : Store} (h : s.Valid) {calls : List Call}
    (hcalls : ∀ call ∈ calls, call.PlainId s.idField) : (s.run calls).Valid := by
  induction calls generalizing s with
  | nil => exact h
  | cons call calls ih =>
    refine ih (h.step (hcalls call List.mem_cons_self)) fun later hlater => ?_
    rw [s.idField_step call]
    exact hcalls later (List.mem_cons_of_mem _ hlater)

theorem idField_run (s : Store) (calls : List Call) : (s.run calls).idField = s.idField := by
  induction calls generalizing s with
  | nil => rfl
  | cons call calls ih => exact (ih (s.step call)).trans (s.idField_step call)

/-- Records at different places of a collection have different ids. -/
theorem Valid.eqv_eq_false {s : Store} (h : s.Valid) {name : String} {i j : Nat} {a b : Record}
    {x y : Value} (hij : i ≠ j) (ha : (s.collection name)[i]? = some a)
    (hb : (s.collection name)[j]? = some b) (hx : a.get? s.idField = some x)
    (hy : b.get? s.idField = some y) : x.eqv y = false := by
  have hlt {i j : Nat} {a b : Record} (hij : i < j) (ha : (s.collection name)[i]? = some a)
      (hb : (s.collection name)[j]? = some b) : ¬ SameId s.idField a b := by
    obtain ⟨hi, rfl⟩ := List.getElem?_eq_some_iff.mp ha
    obtain ⟨hj, rfl⟩ := List.getElem?_eq_some_iff.mp hb
    exact List.pairwise_iff_getElem.mp (h.distinct name) i j hi hj hij
  cases hxy : x.eqv y with
  | false => rfl
  | true =>
    -- the invariant compares in the order of the positions only
    exfalso
    rcases Nat.lt_or_gt_of_ne hij with hij | hij
    · exact hlt hij ha hb ⟨x, y, hx, hy, hxy⟩
    · obtain ⟨v, hv, hplain⟩ := h.identified name a (List.mem_of_getElem? ha)
      rw [hx] at hv
      injection hv with hv
      exact hlt hij hb ha ⟨y, x, hy, hx, Value.eqv_symm_of_isPlain (hv ▸ hplain) hxy⟩

/-! ## Ids that the store gives out -/

theorem assigned?_eq (s : Store) (call : Call) :
    (s.assigned? call = none ∧ (s.step call).nextId = s.nextId) ∨
      (s.assigned? call = some (.integer s.nextId) ∧ (s.step call).nextId = s.nextId + 1) := by
  cases call with
  | insert r =>
    have hnext : (s.insert r).2.nextId = (s.identify r).2.nextId := by
      unfold insert
      dsimp only
      split <;> rfl
    simp only [assigned?, step, hnext, identify]
    cases h : r.get? s.idField with
    | some id => exact .inl ⟨rfl, rfl⟩
    | none => exact .inr ⟨rfl, rfl⟩
  | update r =>
    refine .inl ⟨rfl, ?_⟩
    simp only [step, update]
    split
    · rfl
    · split <;> rfl
  | select | delete | count => exact .inl ⟨rfl, rfl⟩

/-- The ids that a store gives out are the numbers from its next one on. -/
theorem assigned_eq_map_range (s : Store) (calls : List Call) :
    s.assigned calls =
      (List.range (s.assigned calls).length).map fun i => .integer (s.nextId + Int64.ofNat i) := by
  induction calls generalizing s with
  | nil => rfl
  | cons call calls ih =>
    have hlater := ih (s.step call)
    rcases s.assigned?_eq call with ⟨hid, hnext⟩ | ⟨hid, hnext⟩
    · rw [hnext] at hlater
      simpa [assigned, hid] using hlater
    -- the later ids count from the next number on, which is one further
    · have hshift (i : Nat) : s.nextId + 1 + Int64.ofNat i = s.nextId + Int64.ofNat (i + 1) := by
        rw [Int64.add_assoc, Int64.add_comm 1, Int64.ofNat_add]
        rfl
      rw [hnext] at hlater
      simp only [assigned, hid, Option.toList_some, List.singleton_append, List.length_cons,
        List.range_succ_eq_map, List.map_cons, List.map_map]
      refine List.cons_eq_cons.mpr ⟨by simp, ?_⟩
      rw [hlater]
      simp [hshift, Function.comp_def]

/-- A call gives out at most one id. -/
theorem length_assigned_le (s : Store) (calls : List Call) : (s.assigned calls).length ≤ calls.length := by
  induction calls generalizing s with
  | nil => exact Nat.le_refl _
  | cons call calls ih =>
    have hlater := ih (s.step call)
    rcases s.assigned?_eq call with ⟨hid, -⟩ | ⟨hid, -⟩ <;>
      simp only [assigned, hid, Option.toList_some, Option.toList_none, List.length_append,
        List.length_cons, List.length_nil] <;> omega

/-- Numbers that are counted from a first one on differ until the counter has been all the way round. -/
theorem eq_of_add_ofNat_eq {start : Int64} {i j : Nat} (h : start + Int64.ofNat i = start + Int64.ofNat j)
    (hi : i < 2 ^ 64) (hj : j < 2 ^ 64) : i = j := by
  have hbits := congrArg Int64.toBitVec h
  simp only [Int64.toBitVec_add, Int64.toBitVec_ofNat', BitVec.add_right_inj] at hbits
  have hnat := congrArg BitVec.toNat hbits
  simp only [BitVec.toNat_ofNat] at hnat
  omega

theorem assigned_nodup (s : Store) (calls : List Call) (h : (s.assigned calls).length < 2 ^ 64) :
    (s.assigned calls).Nodup := by
  rw [s.assigned_eq_map_range calls]
  refine List.Nodup.map_on ?_ List.nodup_range
  intro i hi j hj hij
  have hi := List.mem_range.mp hi
  have hj := List.mem_range.mp hj
  exact eq_of_add_ofNat_eq (Value.integer.inj hij) (by omega) (by omega)

/-! ## Summary -/

/-- **In a store that started empty, records stand under their names and have ids that differ from each other, and
the store never gives out an id twice before it has given out all.** -/
theorem run_ids_distinct (idField : String) (start : Int64) (calls : List Call)
    (hcalls : ∀ call ∈ calls, call.PlainId idField) :
    (∀ name, ∀ r ∈ ((empty idField start).run calls).collection name,
        r.name = name ∧ (r.get? idField).isSome = true) ∧
      (∀ (name : String) (i j : Nat) (a b : Record) (x y : Value), i ≠ j →
        (((empty idField start).run calls).collection name)[i]? = some a →
        (((empty idField start).run calls).collection name)[j]? = some b →
        a.get? idField = some x → b.get? idField = some y → x.eqv y = false) ∧
      (((empty idField start).assigned calls).length < 2 ^ 64 →
        ((empty idField start).assigned calls).Nodup) := by
  have hvalid : ((empty idField start).run calls).Valid := (valid_empty idField start).run hcalls
  have hfield : ((empty idField start).run calls).idField = idField := idField_run _ calls
  refine ⟨fun name r hr => ⟨hvalid.named name r hr, ?_⟩, ?_, assigned_nodup _ calls⟩
  · obtain ⟨id, hid, -⟩ := hvalid.identified name r hr
    rw [hfield] at hid
    simp [hid]
  · intro name i j a b x y hij ha hb hx hy
    exact hvalid.eqv_eq_false hij ha hb (by rwa [hfield]) (by rwa [hfield])

/-- A run whose counter passes the last number, and whose update has the other one of two equal zeros as its
id. -/
def zeroCalls : List Call :=
  [.insert (.empty "Person"), .insert (.empty "Company"),
    .insert ⟨"Person", [("id", .float (-0.0))]⟩, .insert ⟨"Person", [("id", .float (0.0 / 0.0))]⟩,
    .update ⟨"Person", [("id", .float 0.0), ("name", .text "Ada")]⟩, .select (.select "Person"),
    .delete ((DocumentQuery.select "Company").whereEq "id" (.integer 0)), .count "Person"]

theorem run_ids_distinct_zeroCalls :
    (∀ call ∈ zeroCalls, call.PlainId "id") ∧
      (∀ name, ∀ r ∈ ((empty "id" Int64.maxValue).run zeroCalls).collection name,
        r.name = name ∧ (r.get? "id").isSome = true) ∧
      ((empty "id" Int64.maxValue).assigned zeroCalls).Nodup := by
  have hcalls : ∀ call ∈ zeroCalls, call.PlainId "id" := by
    simp [zeroCalls, Call.PlainId, HasPlainId, RecordOf.get?, RecordOf.empty, Fields.get?, Value.isPlain]
  obtain ⟨hrecords, -, hassigned⟩ := run_ids_distinct "id" Int64.maxValue zeroCalls hcalls
  refine ⟨hcalls, hrecords, hassigned ?_⟩
  calc ((empty "id" Int64.maxValue).assigned zeroCalls).length
      ≤ zeroCalls.length := length_assigned_le _ _
    _ < 2 ^ 64 := by decide

end Store
end EntityMapping
