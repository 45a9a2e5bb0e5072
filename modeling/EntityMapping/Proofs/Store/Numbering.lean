import EntityMapping.Proofs.Store.Lookup
import Mathlib

/-!
# Numbers of the counter

A record that is inserted without an id gets the next number of the counter. The counter does not look at the ids that
records bring with them, so the number may be taken; the record is then refused. Until the counter has been all the way
round, nothing but such a record can be in the way: the store gives no number twice, and an update keeps ids as they
are.

* `Store.IsTaken` — whether a record has a number as its id
* `Store.isTaken_of_step`, `Store.isTaken_of_run` — where taken numbers come from
* `Store.insert_next_number` — what becomes of a record that is inserted without an id
-/

namespace EntityMapping
namespace Store

/-- Whether a call inserts a record of a name that brings an id with it. -/
def Call.Brings (idField name : String) (id : Value) : Call → Prop
  | .insert r => r.name = name ∧ r.get? idField = some id
  | _ => False

/-- Whether a record of a name has a number as its id. -/
def IsTaken (s : Store) (name : String) (n : Int64) : Prop :=
  ∃ r ∈ s.collection name, r.get? s.idField = some (.integer n)

variable {s : Store} {name : String} {n : Int64} {r : Record}

@[simp] theorem not_isTaken_empty (idField : String) (start : Int64) : ¬ (empty idField start).IsTaken name n := by
  simp [IsTaken]

theorem isTaken_iff_hasId : s.IsTaken name n ↔ ∃ r ∈ s.collection name, s.hasId (.integer n) r = true := by
  simp only [IsTaken, hasId_integer_iff]

/-! ## Where taken numbers come from -/

/-- A number that is taken after a call was taken before it, or given out in it, or brought by it. -/
theorem isTaken_of_step {call : Call} (h : (s.step call).IsTaken name n) :
    s.IsTaken name n ∨ s.assigned? call = some (.integer n) ∨ call.Brings s.idField name (.integer n) := by
  obtain ⟨r, hr, hid⟩ := h
  rw [s.idField_step call] at hid
  cases call with
  | insert given =>
    rcases mem_collection_insert hr with hr | ⟨hname, rfl⟩
    · exact .inl ⟨r, hr, hid⟩
    -- the new record has the id that it brought, or the one that it was given
    · rw [(s.identify_spec given).2.1] at hid
      refine .inr ?_
      cases hgiven : given.get? s.idField with
      | none => exact .inl (by rw [assigned?, hgiven]; exact hid)
      | some id => exact .inr ⟨hname.symm, by rw [hgiven, ← hid, identify, hgiven]⟩
  | update given =>
    rcases s.update_cases given with ⟨-, hsame⟩ | ⟨id, pre, old, post, hgiven, hrecords, hold, -, -, hreplaced⟩
    · rw [step, hsame] at hr
      exact .inl ⟨r, hr, hid⟩
    · rw [step, hreplaced] at hr
      split at hr
      · next hname =>
        rw [IsTaken, hname, hrecords]
        rcases List.mem_append.mp hr with hr | hr
        · exact .inl ⟨r, List.mem_append_left _ hr, hid⟩
        · rcases List.mem_cons.mp hr with rfl | hr
          -- the old record had the same number
          · obtain rfl : id = .integer n := Option.some.inj (hgiven.symm.trans hid)
            exact .inl ⟨old, List.mem_append_right _ List.mem_cons_self, hasId_integer_iff.mp hold⟩
          · exact .inl ⟨r, List.mem_append_right _ (List.mem_cons_of_mem _ hr), hid⟩
      · exact .inl ⟨r, hr, hid⟩
  | delete q => exact .inl ⟨r, mem_collection_delete hr, hid⟩
  | select | count => exact .inl ⟨r, hr, hid⟩

/-- A number that is taken after a run was taken before it, or given out in it, or brought by one of its calls. -/
theorem isTaken_of_run {calls : List Call} (h : (s.run calls).IsTaken name n) :
    s.IsTaken name n ∨ .integer n ∈ s.assigned calls ∨ ∃ call ∈ calls, call.Brings s.idField name (.integer n) := by
  induction calls generalizing s with
  | nil => exact .inl h
  | cons call calls ih =>
    rcases ih h with htaken | hassigned | ⟨later, hlater, hbrings⟩
    · rcases isTaken_of_step htaken with htaken | hid | hbrings
      · exact .inl htaken
      · exact .inr (.inl (by simp [assigned, hid]))
      · exact .inr (.inr ⟨call, List.mem_cons_self, hbrings⟩)
    · exact .inr (.inl (List.mem_append_right _ hassigned))
    · rw [s.idField_step call] at hbrings
      exact .inr (.inr ⟨later, List.mem_cons_of_mem _ hlater, hbrings⟩)

/-! ## The next number -/

theorem assigned_append (s : Store) (calls later : List Call) :
    s.assigned (calls ++ later) = s.assigned calls ++ (s.run calls).assigned later := by
  induction calls generalizing s with
  | nil => rfl
  | cons call calls ih =>
    rw [List.cons_append, assigned, assigned, ih, List.append_assoc]
    rfl

/-- The counter moves on by one with each number that it gives out. -/
theorem nextId_run (s : Store) (calls : List Call) :
    (s.run calls).nextId = s.nextId + Int64.ofNat (s.assigned calls).length := by
  induction calls generalizing s with
  | nil => simp [run, assigned]
  | cons call calls ih =>
    have hrun : s.run (call :: calls) = (s.step call).run calls := rfl
    rcases s.assigned?_eq call with ⟨hid, hnext⟩ | ⟨hid, hnext⟩
    · rw [hrun, ih, hnext, assigned, hid]
      rfl
    · rw [hrun, ih, hnext, assigned, hid, Option.toList_some, List.singleton_append, List.length_cons,
        Int64.add_assoc, Int64.add_comm 1, Int64.ofNat_add]
      rfl

/-- The next number has not been given out before, as long as the counter has not been all the way round. -/
theorem next_not_mem_assigned (s : Store) (calls : List Call) (h : (s.assigned calls).length < 2 ^ 64) :
    .integer (s.run calls).nextId ∉ s.assigned calls := by
  rw [s.assigned_eq_map_range calls, nextId_run, List.mem_map]
  rintro ⟨i, hi, hnumber⟩
  have hlt := List.mem_range.mp hi
  have := eq_of_add_ofNat_eq (Value.integer.inj hnumber) (by omega) h
  omega

/-- Until the counter has been all the way round, no record of a name has ever had the next number unless one was
inserted with it. -/
theorem not_isTaken_next {idField : String} {start : Int64} {calls earlier : List Call}
    (hfew : ((empty idField start).assigned calls).length < 2 ^ 64)
    (hbrings : ∀ call ∈ calls, ¬ call.Brings idField name (.integer ((empty idField start).run calls).nextId))
    (hearlier : earlier <+: calls) :
    ¬ ((empty idField start).run earlier).IsTaken name ((empty idField start).run calls).nextId := by
  intro htaken
  obtain ⟨later, rfl⟩ := hearlier
  rcases isTaken_of_run htaken with htaken | hassigned | ⟨call, hcall, hcallBrings⟩
  · exact not_isTaken_empty idField start htaken
  · refine next_not_mem_assigned _ _ hfew ?_
    rw [assigned_append]
    exact List.mem_append_left _ hassigned
  · exact hbrings call (List.mem_append_left _ hcall) hcallBrings

theorem identify_of_none (h : r.get? s.idField = none) :
    s.identify r = ((r.add s.idField (.integer s.nextId), .integer s.nextId), { s with nextId := s.nextId + 1 }) := by
  rw [identify, h]

/-- A record without an id is stored under the next number, or refused if that is taken. -/
theorem insert_of_none (h : r.get? s.idField = none) :
    (¬ s.IsTaken r.name s.nextId ∧ (s.insert r).1 = .ok (r.add s.idField (.integer s.nextId)) ∧
        ∀ name, (s.insert r).2.collection name =
          if name = r.name then s.collection r.name ++ [r.add s.idField (.integer s.nextId)]
          else s.collection name) ∨
      s.IsTaken r.name s.nextId ∧
        (s.insert r).1 = .error (.storage (.alreadyExists r.name s.idField (.integer s.nextId))) ∧
        ∀ name, (s.insert r).2.collection name = s.collection name := by
  have hidentify := identify_of_none h
  rw [isTaken_iff_hasId]
  rcases s.insert_cases r with ⟨htaken, hresult, hsame⟩ | ⟨hfree, hresult, happended⟩
  · rw [hidentify] at htaken hresult
    exact .inr ⟨htaken, hresult, hsame⟩
  · rw [hidentify] at hfree hresult
    refine .inl ⟨?_, hresult, by rwa [hidentify] at happended⟩
    rintro ⟨old, hold, hhas⟩
    rw [hfree old hold] at hhas
    cases hhas

/-- The counter moves on with a record that is inserted without an id, also when the record is refused. -/
theorem nextId_insert (h : r.get? s.idField = none) : (s.insert r).2.nextId = s.nextId + 1 := by
  rcases s.assigned?_eq (.insert r) with ⟨hid, -⟩ | ⟨-, hnext⟩
  · simp [assigned?, h] at hid
  · exact hnext

/-- **A record that is inserted without an id gets the next number of the counter. It is stored exactly if no record of
its name has this number, and is refused otherwise, with the records left as they are.** Until the counter has been all
the way round, the number can only be in the way of a record if another one was inserted with it: if none was, no record
of the name has ever had it. -/
theorem insert_next_number (idField : String) (start : Int64) (calls : List Call) (r : Record) {s : Store}
    (hs : (empty idField start).run calls = s) (hid : r.get? idField = none) :
    s.nextId = start + Int64.ofNat ((empty idField start).assigned calls).length ∧
      ((s.insert r).1 = .ok (r.add idField (.integer s.nextId)) ↔ ¬ s.IsTaken r.name s.nextId) ∧
      (s.IsTaken r.name s.nextId →
        (s.insert r).1 = .error (.storage (.alreadyExists r.name idField (.integer s.nextId))) ∧
          ∀ name, (s.insert r).2.collection name = s.collection name) ∧
      (s.insert r).2.nextId = s.nextId + 1 ∧
      (((empty idField start).assigned calls).length < 2 ^ 64 →
        (∀ call ∈ calls, ¬ call.Brings idField r.name (.integer s.nextId)) →
        (s.insert r).1 = .ok (r.add idField (.integer s.nextId)) ∧
          ∀ earlier, earlier <+: calls → ¬ ((empty idField start).run earlier).IsTaken r.name s.nextId) := by
  have hfield : s.idField = idField := hs ▸ idField_run _ calls
  have hid' : r.get? s.idField = none := by rwa [hfield]
  have hstored : (s.insert r).1 = .ok (r.add idField (.integer s.nextId)) ↔ ¬ s.IsTaken r.name s.nextId := by
    rcases insert_of_none hid' with ⟨hfree, hresult, -⟩ | ⟨htaken, hresult, -⟩
    · rw [hresult, hfield]
      exact iff_of_true rfl hfree
    · rw [hresult]
      exact iff_of_false nofun (not_not_intro htaken)
  refine ⟨hs ▸ nextId_run _ calls, hstored, ?_, nextId_insert hid', ?_⟩
  · intro htaken
    rcases insert_of_none hid' with ⟨hfree, -⟩ | ⟨-, hresult, hsame⟩
    · exact absurd htaken hfree
    · exact ⟨hfield ▸ hresult, hsame⟩
  · intro hfew hbrings
    have hnever (earlier : List Call) (hearlier : earlier <+: calls) :
        ¬ ((empty idField start).run earlier).IsTaken r.name s.nextId := by
      subst hs
      exact not_isTaken_next hfew hbrings hearlier
    have hnow := hnever calls (List.prefix_refl calls)
    rw [hs] at hnow
    exact ⟨hstored.mpr hnow, hnever⟩

/-- A run whose counter passes the last number, and which brings ids of its own: one that the counter gives out later,
but to a record of another name, and one that no counter gives out. -/
def wrapCalls : List Call :=
  [.insert (.empty "Person"), .insert ⟨"Company", [("id", .integer Int64.minValue)]⟩,
    .insert ⟨"Person", [("id", .text "first")]⟩, .update ⟨"Person", [("id", .integer Int64.maxValue)]⟩]

theorem insert_next_number_wrapCalls :
    (RecordOf.empty "Person" : Record).get? "id" = none ∧
      ((empty "id" Int64.maxValue).run wrapCalls).nextId = Int64.minValue ∧
      (((empty "id" Int64.maxValue).run wrapCalls).insert (.empty "Person")).1 =
        .ok ⟨"Person", [("id", .integer Int64.minValue)]⟩ := by
  have hid : (RecordOf.empty "Person" : Record).get? "id" = none := rfl
  have hnext : ((empty "id" Int64.maxValue).run wrapCalls).nextId = Int64.minValue := by cbv
  obtain ⟨-, -, -, -, hstored⟩ := insert_next_number "id" Int64.maxValue wrapCalls (.empty "Person") rfl hid
  rw [hnext] at hstored
  refine ⟨hid, hnext, (hstored ?_ ?_).1⟩
  · calc ((empty "id" Int64.maxValue).assigned wrapCalls).length
        ≤ wrapCalls.length := length_assigned_le _ _
      _ < 2 ^ 64 := by decide
  · simp [wrapCalls, Call.Brings, RecordOf.empty, RecordOf.get?, Fields.get?]

/-- A person is refused because another one was inserted with the number that the counter gives out first. -/
theorem insert_refuses_taken_number :
    (((empty "_id" 1).run [.insert ⟨"Person", [("_id", .integer 1)]⟩]).insert ⟨"Person", [("name", .text "Ada")]⟩).1 =
        .error (.storage (.alreadyExists "Person" "_id" (.integer 1))) ∧
      ((empty "_id" 1).assigned [.insert ⟨"Person", [("_id", .integer 1)]⟩]).length = 0 ∧
      (⟨"Person", [("name", .text "Ada")]⟩ : Record).get? "_id" = none := by
  refine ⟨?_, ?_, ?_⟩ <;> cbv

end Store
end EntityMapping
