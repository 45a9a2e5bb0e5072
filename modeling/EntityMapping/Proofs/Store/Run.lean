import EntityMapping.Store

/-!
# Runs of a store

A store is used by calls, one after the other. This module says what each call does to the collections, as seen by
`Store.collection`, and which ids the store gives out on the way.

* `insert_cases`, `update_cases` — all that an insertion and an update can do
* `collection_delete` — what a deletion leaves
* `Store.run`, `Store.assigned` — a run of calls, and the ids that were given out in it
-/

namespace EntityMapping
namespace Store

/-! ## The first item with a property -/

/-- Replacing takes a list apart at the first item with the property. -/
theorem replaceFirst_eq_some {α : Type} {p : α → Bool} {a : α} {as bs : List α}
    (h : replaceFirst p a as = some bs) :
    ∃ pre old post, as = pre ++ old :: post ∧ bs = pre ++ a :: post ∧ p old = true ∧
      ∀ b ∈ pre, p b = false := by
  induction as generalizing bs with
  | nil => simp [replaceFirst] at h
  | cons b as ih =>
    unfold replaceFirst at h
    split at h
    · next hp =>
      injection h with h
      exact ⟨[], b, as, rfl, h.symm, hp, by simp⟩
    · next hp =>
      obtain ⟨cs, hcs, rfl⟩ := Option.map_eq_some_iff.mp h
      obtain ⟨pre, old, post, rfl, rfl, hold, hpre⟩ := ih hcs
      refine ⟨b :: pre, old, post, rfl, rfl, hold, ?_⟩
      intro c hc
      rcases List.mem_cons.mp hc with rfl | hc
      · simpa using hp
      · exact hpre c hc

/-! ## What the calls do -/

@[simp] theorem collection_empty (idField : String) (start : Int64) (name : String) :
    (empty idField start).collection name = [] := rfl

@[simp] theorem idField_put (s : Store) (name : String) (records : List Record) :
    (s.put name records).idField = s.idField := rfl

/-- A record keeps its name when it gets its id, and the collections stay as they are. -/
theorem identify_spec (s : Store) (r : Record) :
    (s.identify r).1.1.name = r.name ∧
      (s.identify r).1.1.get? s.idField = some (s.identify r).1.2 ∧
      (s.identify r).2.idField = s.idField ∧ (s.identify r).2.collections = s.collections := by
  unfold identify
  cases h : r.get? s.idField with
  | some id => exact ⟨rfl, h, rfl, rfl⟩
  | none => exact ⟨rfl, by simp [RecordOf.get?_add], rfl, rfl⟩

/-- What a record holds it also holds when it has got its id. -/
theorem get?_identify {s : Store} {r : Record} {name : String} {v : Value} (h : r.get? name = some v) :
    (s.identify r).1.1.get? name = some v := by
  unfold identify
  cases hid : r.get? s.idField with
  | some id => exact h
  | none =>
    have hne : name ≠ s.idField := by
      rintro rfl
      simp [hid] at h
    simp [RecordOf.get?_add, hne, h]

/-- An insertion either finds a record with the same id, and stores nothing, or puts the record at the end of the
collection of its name. -/
theorem insert_cases (s : Store) (r : Record) :
    ((∃ old ∈ s.collection r.name, s.hasId (s.identify r).1.2 old = true) ∧
        (s.insert r).1 = .error (.storage (.alreadyExists r.name s.idField (s.identify r).1.2)) ∧
        ∀ name, (s.insert r).2.collection name = s.collection name) ∨
      ((∀ old ∈ s.collection r.name, s.hasId (s.identify r).1.2 old = false) ∧
        (s.insert r).1 = .ok (s.identify r).1.1 ∧
        ∀ name, (s.insert r).2.collection name =
          if name = r.name then s.collection r.name ++ [(s.identify r).1.1] else s.collection name) := by
  obtain ⟨hname, -, hfield, hcollections⟩ := s.identify_spec r
  have hcollection (name : String) : (s.identify r).2.collection name = s.collection name := by
    rw [collection, collection, hcollections]
  -- the search looks at the store behind the counter, which has the same records
  have hhas : (s.identify r).2.hasId (s.identify r).1.2 = s.hasId (s.identify r).1.2 := by
    funext old
    rw [hasId, hasId, hfield]
  unfold insert
  simp only [hname, hcollection, hhas, hfield]
  split
  · next hany => exact .inl ⟨List.any_eq_true.mp hany, rfl, hcollection⟩
  · next hany =>
    refine .inr ⟨by simpa using hany, rfl, fun name => ?_⟩
    simp only [collection_put, hcollection]

/-- An update either fails and leaves the store as it is, or puts the record in the place of the first one with
the same id. -/
theorem update_cases (s : Store) (r : Record) :
    ((∃ e, (s.update r).1 = .error e) ∧ (s.update r).2 = s) ∨
      ∃ id pre old post, r.get? s.idField = some id ∧ s.collection r.name = pre ++ old :: post ∧
        s.hasId id old = true ∧ (∀ a ∈ pre, s.hasId id a = false) ∧ (s.update r).1 = .ok r ∧
        ∀ name, (s.update r).2.collection name =
          if name = r.name then pre ++ r :: post else s.collection name := by
  unfold update
  cases hid : r.get? s.idField with
  | none => exact .inl ⟨⟨_, rfl⟩, rfl⟩
  | some id =>
    cases hreplace : replaceFirst (s.hasId id) r (s.collection r.name) with
    | none =>
      refine .inl ⟨⟨.storage (.notFound r.name s.idField id), ?_⟩, ?_⟩
      · simp only [hreplace]
      · simp only [hreplace]
    | some records =>
      obtain ⟨pre, old, post, hcollection, rfl, hold, hpre⟩ := replaceFirst_eq_some hreplace
      refine .inr ⟨id, pre, old, post, rfl, hcollection, hold, hpre, ?_, fun name => ?_⟩
      · simp only [hreplace]
      · simp only [hreplace, collection_put]

/-- A deletion leaves what does not meet the condition, and nothing else is touched. -/
theorem collection_delete (s : Store) (q : DocumentQuery) (name : String) :
    (s.delete q).2.collection name =
      if name = q.entity then (s.collection q.entity).filter fun r => !q.accepts r
      else s.collection name :=
  s.collection_put q.entity name _

theorem idField_insert (s : Store) (r : Record) : (s.insert r).2.idField = s.idField := by
  have hfield := (s.identify_spec r).2.2.1
  unfold insert
  dsimp only
  split
  · exact hfield
  · exact hfield

theorem idField_update (s : Store) (r : Record) : (s.update r).2.idField = s.idField := by
  unfold update
  split
  · rfl
  · split <;> rfl

/-! ## Runs -/

/-- A call of a store. -/
inductive Call where
  | insert (r : Record)
  | update (r : Record)
  | select (q : DocumentQuery)
  | delete (q : DocumentQuery)
  | count (name : String)

/-- The store after a call. Only insertions, updates and deletions change a store. -/
def step (s : Store) : Call → Store
  | .insert r => (s.insert r).2
  | .update r => (s.update r).2
  | .select _ => s
  | .delete q => (s.delete q).2
  | .count _ => s

/-- The store after some calls. -/
def run (s : Store) (calls : List Call) : Store := calls.foldl step s

/-- The id that the store gives to the record of a call, which is one that is inserted without an id. -/
def assigned? (s : Store) : Call → Option Value
  | .insert r => if (r.get? s.idField).isSome then none else some (s.identify r).1.2
  | _ => none

/-- The ids that a store gives out in the course of some calls, also to records that it then refuses. -/
def assigned (s : Store) : List Call → List Value
  | [] => []
  | call :: calls => (s.assigned? call).toList ++ (s.step call).assigned calls

theorem idField_step (s : Store) (call : Call) : (s.step call).idField = s.idField := by
  cases call with
  | insert r => exact s.idField_insert r
  | update r => exact s.idField_update r
  | select | delete | count => rfl

end Store
end EntityMapping
