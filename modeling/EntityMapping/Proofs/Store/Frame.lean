import EntityMapping.Proofs.Store.Lookup

/-!
# What calls leave alone

A call of a store names the records that it is about. An insertion puts one at the end of their collection, an update
puts one in the place of another, a deletion takes some out, and nothing else changes: not the other records of the
name, not their order, and no records of another name. A call that fails changes no records at all.

* `Store.Call.entity` — the name of the records that a call is about
* `Store.collection_step_of_ne`, `Store.collection_run_of_forall_ne` — no other records change, in a call and in a run
* `Store.Valid.update_of_ok` — an update replaces the only record with its id
* `Store.touchesNamed` — what all calls do
-/

namespace EntityMapping
namespace Store

variable {s : Store} {r r' : Record} {name : String}

/-! ## Other names -/

/-- The name of the records that a call is about. -/
def Call.entity : Call → String
  | .insert r => r.name
  | .update r => r.name
  | .select q => q.entity
  | .delete q => q.entity
  | .count name => name

theorem collection_step_of_ne {call : Call} (h : call.entity ≠ name) :
    (s.step call).collection name = s.collection name := by
  cases call with
  | insert r =>
    rcases s.insert_cases r with ⟨-, -, hcollection⟩ | ⟨-, -, hcollection⟩
    · exact hcollection name
    · exact (hcollection name).trans (if_neg h.symm)
  | update r =>
    rcases s.update_cases r with ⟨-, hsame⟩ | ⟨_, _, _, _, -, -, -, -, -, hcollection⟩
    · exact congrArg (collection · name) hsame
    · exact (hcollection name).trans (if_neg h.symm)
  | delete q => exact (s.collection_delete q name).trans (if_neg h.symm)
  | select | count => rfl

theorem collection_run_of_forall_ne {calls : List Call} (h : ∀ call ∈ calls, call.entity ≠ name) :
    (s.run calls).collection name = s.collection name := by
  induction calls generalizing s with
  | nil => rfl
  | cons call calls ih =>
    obtain ⟨hcall, hcalls⟩ := List.forall_mem_cons.mp h
    calc ((s.step call).run calls).collection name
        = (s.step call).collection name := ih hcalls
      _ = s.collection name := collection_step_of_ne hcall

/-! ## The records that a call is about -/

/-- An insertion puts what it returns at the end. -/
theorem insert_of_ok (h : (s.insert r).1 = .ok r') :
    r'.name = r.name ∧ (s.insert r).2.collection r'.name = s.collection r'.name ++ [r'] := by
  have hname := (s.identify_spec r).1
  rcases s.insert_cases r with ⟨-, herror, -⟩ | ⟨-, hok, hcollection⟩
  · cases h.symm.trans herror
  · obtain rfl : (s.identify r).1.1 = r' := Except.ok.inj (hok.symm.trans h)
    refine ⟨hname, ?_⟩
    rw [hcollection, if_pos hname, hname]

/-- An insertion that fails leaves the records as they are. -/
theorem insert_of_error {e : MapError} (h : (s.insert r).1 = .error e) (name : String) :
    (s.insert r).2.collection name = s.collection name := by
  rcases s.insert_cases r with ⟨-, -, hcollection⟩ | ⟨-, hok, -⟩
  · exact hcollection name
  · cases h.symm.trans hok

/-- An update puts the record in the place of the only one with its id. -/
theorem Valid.update_of_ok (hvalid : s.Valid) (h : (s.update r).1 = .ok r') :
    r' = r ∧ ∃ id pre old post, r.get? s.idField = some id ∧ s.collection r.name = pre ++ old :: post ∧
      (s.update r).2.collection r.name = pre ++ r :: post ∧ s.hasId id old = true ∧
      ∀ other ∈ pre ++ post, s.hasId id other = false := by
  rcases s.update_cases r with
    ⟨⟨e, herror⟩, -⟩ | ⟨id, pre, old, post, hid, hrecords, hold, hpre, hok, hcollection⟩
  · cases h.symm.trans herror
  · have hreplaced : (s.update r).2.collection r.name = pre ++ r :: post := (hcollection r.name).trans (if_pos rfl)
    refine ⟨Except.ok.inj (h.symm.trans hok), id, pre, old, post, hid, hrecords, hreplaced, hold, ?_⟩
    intro other hother
    rcases List.mem_append.mp hother with hother | hother
    · exact hpre other hother
    -- the search ends at the old record; those behind it have other ids because ids are distinct
    · have hdistinct := hvalid.distinct r.name
      rw [hrecords] at hdistinct
      have hne : ¬ SameId s.idField old other :=
        (List.pairwise_cons.mp (List.pairwise_append.mp hdistinct).2.1).1 other hother
      have hmem {a : Record} (ha : a ∈ old :: post) : a ∈ s.collection r.name :=
        hrecords ▸ List.mem_append_right pre ha
      exact eq_false_of_ne_true fun hsame =>
        hne (hvalid.sameId_of_hasId (hmem List.mem_cons_self) (hmem (List.mem_cons_of_mem _ hother)) hold hsame)

/-- An update that fails leaves the store as it is. -/
theorem update_of_error {e : MapError} (h : (s.update r).1 = .error e) : (s.update r).2 = s := by
  rcases s.update_cases r with ⟨-, hsame⟩ | ⟨_, _, _, _, -, -, -, -, hok, -⟩
  · exact hsame
  · cases h.symm.trans hok

/-- What was deleted is not found any more. -/
theorem select_delete (s : Store) (q : DocumentQuery) : (s.delete q).2.select q = .ok [] := by
  have hnone : (s.delete q).2.matching q = [] := by
    rw [matching, collection_delete, if_pos rfl, List.filter_filter, List.filter_eq_nil_iff]
    simp
  have hsorted : sortRecords q.sorts [] = [] := (perm_sortRecords q.sorts []).eq_nil
  rw [select_eq_ok_iff, hnone, hsorted]
  exact ⟨.inl (Nat.zero_le _), List.sublist_nil.mp (q.window_sublist [])⟩

/-- The number of records of a name is the number of those that are found when all are asked for. -/
theorem count_eq_length_of_select {q : DocumentQuery} {rows : List Record} (hcondition : q.condition = none)
    (hskip : q.skip = 0) (hlimit : q.limit = none) (h : s.select q = .ok rows) : s.count q.entity = rows.length := by
  have hall : s.matching q = s.collection q.entity := by
    refine List.filter_eq_self.mpr fun r _ => ?_
    rw [DocumentQuery.accepts, hcondition]
  have hperm : rows.Perm (s.matching q) := by
    refine (perm_iff_of_select h).mpr (.inr ⟨hskip, fun limit hsome => ?_⟩)
    cases hlimit.symm.trans hsome
  rw [hperm.length_eq, hall]
  rfl

/-! ## All calls -/

/-- Whether the calls of a store change only what they name. -/
structure TouchesNamed (s : Store) : Prop where
  insert_ok : ∀ r r', (s.insert r).1 = .ok r' →
    r'.name = r.name ∧ (s.insert r).2.collection r'.name = s.collection r'.name ++ [r']
  insert_error : ∀ r e, (s.insert r).1 = .error e → ∀ name, (s.insert r).2.collection name = s.collection name
  /-- The one record with the id is replaced where it is. -/
  update_ok : ∀ r r', (s.update r).1 = .ok r' → r' = r ∧ ∃ id pre old post, r.get? s.idField = some id ∧
    s.collection r.name = pre ++ old :: post ∧ (s.update r).2.collection r.name = pre ++ r :: post ∧
    s.hasId id old = true ∧ ∀ other ∈ pre ++ post, s.hasId id other = false
  update_error : ∀ r e, (s.update r).1 = .error e → (s.update r).2 = s
  /-- The records that do not meet the condition stay in their order, the others are counted, and not found again. -/
  delete : ∀ q, (s.delete q).2.collection q.entity = (s.collection q.entity).filter (fun r => !q.accepts r) ∧
    (s.delete q).1 = ((s.collection q.entity).filter q.accepts).length ∧ (s.delete q).2.select q = .ok []
  select_count : ∀ q name, s.step (.select q) = s ∧ s.step (.count name) = s
  others : ∀ call name, call.entity ≠ name → (s.step call).collection name = s.collection name
  others_run : ∀ calls name, (∀ call ∈ calls, call.entity ≠ name) → (s.run calls).collection name = s.collection name
  /-- Also after more calls, all records of a name are counted. -/
  counted : ∀ more q, q.condition = none → q.skip = 0 → q.limit = none →
    (q.sorts = [] → ∃ rows, (s.run more).select q = .ok rows) ∧
      ∀ rows, (s.run more).select q = .ok rows → (s.run more).count q.entity = rows.length

/-- **In a store that started empty and holds plain ids, every call changes only what it names.** -/
theorem touchesNamed (idField : String) (start : Int64) (calls : List Call)
    (hplain : ∀ name, ∀ r ∈ ((empty idField start).run calls).collection name, HasPlainId idField r) :
    TouchesNamed ((empty idField start).run calls) := by
  have hfield : ((empty idField start).run calls).idField = idField := idField_run _ calls
  have hvalid : ((empty idField start).run calls).Valid := by
    refine valid_iff_keyed.mpr ⟨(keyed_empty idField start).run calls, ?_⟩
    rw [hfield]
    exact hplain
  exact {
    insert_ok _ _ h := insert_of_ok h
    insert_error _ _ h := insert_of_error h
    update_ok _ _ h := hvalid.update_of_ok h
    update_error _ _ h := update_of_error h
    delete q := ⟨(collection_delete _ q q.entity).trans (if_pos rfl), (removal_delete _ q).2.1, select_delete _ q⟩
    select_count _ _ := ⟨rfl, rfl⟩
    others _ _ h := collection_step_of_ne h
    others_run _ _ h := collection_run_of_forall_ne h
    counted _ _ hcondition hskip hlimit := ⟨fun hsorts => ⟨_, select_of_sorts_eq_nil hsorts⟩,
      fun _ hrows => count_eq_length_of_select hcondition hskip hlimit hrows⟩ }

/-- Cleo takes Bob's place, and Ada stays where she is. There is no third person to be replaced, and a company changes
no person. -/
theorem touchesNamed_personStore :
    (∃ pre old post, personStore.collection "Person" = pre ++ old :: post ∧
        (personStore.update ⟨"Person", [("name", .text "Cleo"), ("_id", .integer 2)]⟩).2.collection "Person" =
          pre ++ ⟨"Person", [("name", .text "Cleo"), ("_id", .integer 2)]⟩ :: post ∧
        personStore.hasId (.integer 2) old = true ∧
        ∀ other ∈ pre ++ post, personStore.hasId (.integer 2) other = false) ∧
      (personStore.update ⟨"Person", [("_id", .integer 3)]⟩).2 = personStore ∧
      (personStore.insert ⟨"Company", []⟩).2.collection "Person" = personStore.collection "Person" ∧
      ∃ rows, personStore.select (.select "Person") = .ok rows ∧ personStore.count "Person" = rows.length := by
  have hvalid : personStore.Valid :=
    (valid_empty "_id" 1).run (by simp [Call.PlainId, HasPlainId, RecordOf.get?, Fields.get?, Value.isPlain])
  have hfield : personStore.idField = "_id" := idField_run _ _
  have hplain := (valid_iff_keyed.mp hvalid).2
  rw [hfield] at hplain
  have htouches : TouchesNamed personStore := touchesNamed "_id" 1 _ hplain
  have hcleo : (personStore.update ⟨"Person", [("name", .text "Cleo"), ("_id", .integer 2)]⟩).1 =
      .ok ⟨"Person", [("name", .text "Cleo"), ("_id", .integer 2)]⟩ := by cbv
  have hnobody : (personStore.update ⟨"Person", [("_id", .integer 3)]⟩).1 =
      .error (.storage (.notFound "Person" "_id" (.integer 3))) := by cbv
  obtain ⟨-, id, pre, old, post, hid, hbefore, hafter, hold, hothers⟩ := htouches.update_ok _ _ hcleo
  obtain rfl : .integer 2 = id := by
    rw [hfield] at hid
    exact Option.some.inj hid
  obtain ⟨hfound, hcounted⟩ := htouches.counted [] (.select "Person") rfl rfl rfl
  obtain ⟨rows, hrows⟩ := hfound rfl
  exact ⟨⟨pre, old, post, hbefore, hafter, hold, hothers⟩, htouches.update_error _ _ hnobody,
    htouches.others (.insert ⟨"Company", []⟩) "Person" (by decide), rows, hrows, hcounted rows hrows⟩

end Store
end EntityMapping
