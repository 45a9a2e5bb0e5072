import EntityMapping.Proofs.Converter.Failure
import EntityMapping.Proofs.Converter.Member
import EntityMapping.Proofs.Converter.RoundTrip
import EntityMapping.Proofs.Store.Lookup
import EntityMapping.Proofs.Template.Saving
import EntityMapping.Proofs.Workflow.Trace

/-!
# Entities with an id

Entities whose id is an integer, in a store that takes the id from the same field. What was saved is found under its
id, what was deleted is not, and no other id is affected; the number of entities tells the same.

* `Store.Reachable` — the stores that come about by calls of the store and of templates
* `DeclaredSchema.HasIntegerId` — types with such an id
* `Template.KeepsLaws` — what insertions, updates, deletions and searches keep to
* `Template.keepsLaws` — they do so in every store that is reachable
* `Template.resident_kept_trial_undecided` — what may happen to a type that is refused, and with attribute converters
-/

namespace EntityMapping

/-! ## Stores that are reachable -/

namespace Workflow

variable {R σ ε : Type}

/-- A run leaves the storage alone, or as its action leaves it. -/
theorem flow_snd (w : Workflow R) (wrap : MapError → ε) (type : TypeName) (entity : Option Object)
    (action : StorageAction σ ε R) (s : σ) :
    (w.flow wrap type entity action s).2 = s ∨
      ∃ t given, (w.start type entity).result = .ok (t, given) ∧
        (w.flow wrap type entity action s).2 = (action given s).2 := by
  rcases w.flow_cases wrap type entity action s with
    ⟨-, -, -, hstore⟩ | ⟨t, given, -, hstart, -, -, hstore⟩ | ⟨t, given, -, hstart, -, -, hstore⟩
  · exact .inl hstore
  · exact .inr ⟨t, given, hstart, hstore⟩
  · exact .inr ⟨t, given, hstart, hstore⟩

end Workflow

/-- The stores that come about from an empty one by calls of the store, and of templates for it, whose records have
plain ids. The other calls of templates leave the store as it is. -/
inductive Store.Reachable : Store → Prop
  | empty (idField : String) (start : Int64) : Reachable (.empty idField start)
  | call {s : Store} {call : Call} (before : Reachable s) (plain : call.PlainId s.idField) : Reachable (s.step call)
  | insert {s : Store} (m : Mapping) (type : TypeName) (entity : Option Object) (before : Reachable s)
      (plain : ∀ t given, (m.recordWorkflow.start type entity).result = .ok (t, given) → HasPlainId s.idField given) :
      Reachable ((Template.ofStore m).insert type entity s).2
  | update {s : Store} (m : Mapping) (type : TypeName) (entity : Option Object) (before : Reachable s)
      (plain : ∀ t given, (m.recordWorkflow.start type entity).result = .ok (t, given) → HasPlainId s.idField given) :
      Reachable ((Template.ofStore m).update type entity s).2
  | delete {s : Store} (m : Mapping) (type : TypeName) (id : Option Value) (before : Reachable s) :
      Reachable ((Template.ofStore m).deleteById type id s).2
  /-- The store may also be one that takes its time. -/
  | insertAwaited {s : Store} (m : Mapping) (manager : AsyncDocumentManager Store) (type : TypeName)
      (entity : Option Object) (before : Reachable s) (same : ∀ r, (manager.insert r).await = Store.manager.insert r)
      (plain : ∀ t given, (m.recordWorkflow.start type entity).result = .ok (t, given) → HasPlainId s.idField given) :
      Reachable (((AsyncTemplate.mk m manager).insert type entity).await s).2
  | updateAwaited {s : Store} (m : Mapping) (manager : AsyncDocumentManager Store) (type : TypeName)
      (entity : Option Object) (before : Reachable s) (same : ∀ r, (manager.update r).await = Store.manager.update r)
      (plain : ∀ t given, (m.recordWorkflow.start type entity).result = .ok (t, given) → HasPlainId s.idField given) :
      Reachable (((AsyncTemplate.mk m manager).update type entity).await s).2

theorem Template.deleteById_snd (m : Mapping) (type : TypeName) (id : Option Value) (s : Store) :
    ((ofStore m).deleteById type id s).2 = s ∨ ∃ q, ((ofStore m).deleteById type id s).2 = (s.delete q).2 := by
  unfold deleteById
  dsimp only
  split
  · exact .inl rfl
  · next q _ => exact .inr ⟨q, rfl⟩

/-- A run over a valid store leaves a valid one, if its action does for the record that it is given. -/
theorem Store.Valid.flow {s : Store} (h : s.Valid) {w : Workflow Record} {type : TypeName} {entity : Option Object}
    (action : StorageAction Store MapError Record)
    (haction : ∀ given, HasPlainId s.idField given → (action given s).2.Valid)
    (hplain : ∀ t given, (w.start type entity).result = .ok (t, given) → HasPlainId s.idField given) :
    (w.flow id type entity action s).2.Valid := by
  rcases w.flow_snd id type entity action s with hstore | ⟨t, given, hstart, hstore⟩
  · rw [hstore]
    exact h
  · rw [hstore]
    exact haction given (hplain t given hstart)

/-- A store that is reachable is valid. -/
theorem Store.Reachable.valid {s : Store} (h : s.Reachable) : s.Valid := by
  induction h with
  | empty idField start => exact valid_empty idField start
  | call _ plain ih => exact ih.step plain
  | insert m type entity _ plain ih => exact ih.flow _ (fun _ hplain => ih.insert hplain) plain
  | update m type entity _ plain ih => exact ih.flow _ (fun _ hplain => ih.update hplain) plain
  | insertAwaited m manager type entity _ same plain ih =>
    rw [AsyncTemplate.insert, Workflow.await_flowAsync, funext same]
    exact ih.flow _ (fun _ hplain => ih.insert hplain) plain
  | updateAwaited m manager type entity _ same plain ih =>
    rw [AsyncTemplate.update, Workflow.await_flowAsync, funext same]
    exact ih.flow _ (fun _ hplain => ih.update hplain) plain
  | @delete s m type id _ ih =>
    rcases Template.deleteById_snd m type id s with hstore | ⟨q, hstore⟩
    · exact (congrArg Valid hstore).mpr ih
    · exact (congrArg Valid hstore).mpr (ih.delete q)

/-! ## Searches -/

namespace Template

/-- What is answered when these records are found. -/
def answer (m : Mapping) (type : TypeName) (found : List Record) : Mapping.Answer (Option Object) := do
  match ← singleResult ⟨type, "find_by_id", .optional⟩ (.lift (.ok (ResultStream.ofList found).answers)) with
  | none => return none
  | some r => return some (← m.load type r)

section Searches

variable {m : Mapping} {type : TypeName} {t : EntityType} {f : FieldMapping} {s : Store}
  (ht : m.converter.schema.entity type = .ok t) (hid : t.id? = some f) (hfield : f.name = s.idField)
include ht

theorem result_count : ((ofStore m).count type s).result = .ok (s.collection t.name).length := by
  rw [count, Mapping.entity, ht]
  rfl

include hid hfield

theorem idQuery_eq (id : Value) : (ofStore m).idQuery type (some id) = .lift (.ok (s.byId t.name id)) := by
  have hquery : t.idQuery id = .ok (s.byId t.name id) := by
    unfold EntityType.idQuery
    rw [hid]
    dsimp only
    rw [hfield, Store.byId]
  rw [idQuery, Mapping.entity, ht, ← hquery]
  rfl

/-- A search by an id depends on the records that have it. -/
theorem findById_eq (id : Value) :
    (ofStore m).findById type (some id) s = answer m type (s.having t.name id) := by
  have hselect : s.select (s.byId t.name id) = .ok (s.having t.name id) := Store.select_of_sorts_eq_nil rfl
  rw [findById, idQuery_eq ht hid hfield]
  show (ofStore m).single _ type (s.byId t.name id) s = _
  rw [single, show (ofStore m).manager.select (s.byId t.name id) s = .ok (s.having t.name id) from hselect]
  rfl

theorem deleteById_eq (id : Value) :
    (ofStore m).deleteById type (some id) s =
      (⟨[], .ok (0 < (s.having t.name id).length)⟩, (s.delete (s.byId t.name id)).2) := by
  rw [deleteById, idQuery_eq ht hid hfield, ← (s.length_delete t.name id).1]
  rfl

end Searches

theorem result_answer_nil (m : Mapping) (type : TypeName) : (answer m type []).result = .ok none := rfl

theorem result_answer_singleton (m : Mapping) (type : TypeName) (r : Record) :
    (answer m type [r]).result = (m.converter.read type r).result.map some := by
  rw [answer, Traced.result_bind]
  show (m.load type r >>= fun o => pure (some o)).result = _
  rw [Traced.result_bind, Mapping.load, Observers.result_relay]
  rfl

end Template

/-! ## Types with an integer id -/

namespace TypeDescription

/-- There is at most one id in an entity type. -/
theorem countP_isId_of_build {d : TypeDescription} {t : EntityType} (h : d.build = .ok t) :
    d.fields.countP FieldMapping.isId ≤ 1 := by
  unfold build at h
  dsimp only at h
  split at h
  · simp at h
  · omega

end TypeDescription

/-- The only item with a property is the first one. -/
theorem find?_of_countP_le_one {α : Type} {p : α → Bool} {as : List α} (h : as.countP p ≤ 1) {a : α} (ha : a ∈ as)
    (hp : p a = true) : as.find? p = some a := by
  induction as with
  | nil => simp at ha
  | cons b as ih =>
    cases hb : p b with
    | false =>
      rw [List.countP_cons_of_neg (by simp [hb])] at h
      rw [List.find?_cons_of_neg (by simp [hb])]
      refine ih h ?_
      rcases List.mem_cons.mp ha with rfl | ha
      · simp [hp] at hb
      · exact ha
    | true =>
      rw [List.countP_cons_of_pos hb] at h
      rw [List.find?_cons_of_pos hb]
      rcases List.mem_cons.mp ha with rfl | ha
      · rfl
      · have hpos := List.countP_pos_iff.mpr ⟨a, ha, hp⟩
        omega

namespace DeclaredSchema

variable {D : DeclaredSchema} {c : Converter} {type : TypeName} {d : Declaration} {i : Member} {name : String}
  {o : Object} {r : Record}

/-- Whether the objects of a type have an integer as their id, optional or not, that is stored as it is under the
given name, and are stored under names that differ from each other. -/
structure HasIntegerId (D : DeclaredSchema) (type : TypeName) (d : Declaration) (i : Member) (name : String) :
    Prop where
  declared : D.declaration? type = some d
  consistent : d.describe.build.isOk = true
  mapped : i ∈ d.mapped
  isId : i.isId = true
  shape : i.type.shape = .value .int64
  plain : i.converter = none
  stored : (i.field d.typeName).name = name
  distinct : (D.flatNames type).Nodup

theorem HasIntegerId.entity (h : D.HasIntegerId type d i name) : D.entity type = .ok d.entityType :=
  entity_of_isOk h.declared h.consistent

theorem HasIntegerId.hasScalar (h : D.HasIntegerId type d i name) : D.HasScalar type d i .int64 name where
  declared := h.declared
  consistent := h.consistent
  mapped := h.mapped
  shape := h.shape
  plain := h.plain
  stored := h.stored
  alone f hf hname := by
    have hown : name ∈ D.namesOf (i.field d.typeName) := by
      simp [Schema.namesOf, FieldMapping.embeds?, FieldMapping.shape, Member.field, h.shape, ← h.stored]
    exact Schema.eq_of_mem_namesOf h.entity h.distinct (List.mem_map_of_mem h.mapped) hf hown hname

theorem HasIntegerId.id?_entityType (h : D.HasIntegerId type d i name) :
    d.entityType.id? = some (i.field d.typeName) := by
  obtain ⟨t, ht⟩ := exists_of_isOk h.consistent
  exact find?_of_countP_le_one (TypeDescription.countP_isId_of_build ht) (List.mem_map_of_mem h.mapped) h.isId

/-- A record with an integer under the name of the id is one of an object with this id. -/
theorem HasIntegerId.get?_of_read (h : D.HasIntegerId type d i name) (hc : c.schema = D.toSchema) {n : Int64}
    (hr : r.get? name = some (.integer n)) (hread : (c.read type r).result = .ok o) :
    o.get? i.name = some (.scalar .int64 n) :=
  h.hasScalar.get?_of_read hc hr rfl hread

/-- A record that is written has an integer under the name of the id, or nothing. -/
theorem HasIntegerId.get?_of_write (h : D.HasIntegerId type d i name) (hc : c.schema = D.toSchema)
    (hwrite : (c.write type o).result = .ok r) :
    r.name = d.entityType.name ∧ (r.get? name = none ∨ ∃ n, r.get? name = some (.integer n)) := by
  obtain ⟨hname, ⟨-, hnone⟩ | ⟨n, -, hget⟩⟩ := h.hasScalar.get?_of_write hc hwrite
  · exact ⟨hname, .inl hnone⟩
  · exact ⟨hname, .inr ⟨n, hget⟩⟩

end DeclaredSchema

/-! ## Ids of stored records -/

namespace Store

variable {s : Store} {given stored : Record}

/-- A record that is inserted with an integer as its id, or without an id, is stored with an integer. -/
theorem get?_of_insert (hgiven : given.get? s.idField = none ∨ ∃ n, given.get? s.idField = some (.integer n))
    (h : (s.insert given).1 = .ok stored) :
    stored.name = given.name ∧ ∃ n, stored.get? s.idField = some (.integer n) := by
  rcases s.insert_cases given with ⟨-, hresult, -⟩ | ⟨-, hresult, -⟩
  · simp [hresult] at h
  · rw [hresult] at h
    injection h with h
    obtain ⟨hname, hget, -, -⟩ := s.identify_spec given
    rw [← h, hname, hget]
    refine ⟨rfl, ?_⟩
    unfold identify
    rcases hgiven with hnone | ⟨n, hn⟩
    · rw [hnone]
      exact ⟨_, rfl⟩
    · rw [hn]
      exact ⟨n, rfl⟩

/-- A record that is updated is stored as it is. -/
theorem get?_of_update (hgiven : given.get? s.idField = none ∨ ∃ n, given.get? s.idField = some (.integer n))
    (h : (s.update given).1 = .ok stored) :
    stored.name = given.name ∧ ∃ n, stored.get? s.idField = some (.integer n) := by
  rcases s.update_cases given with ⟨⟨e, hresult⟩, -⟩ | ⟨id, -, -, -, hid, -, -, -, hresult, -⟩
  · simp [hresult] at h
  · rw [hresult] at h
    injection h with h
    rw [← h]
    refine ⟨rfl, hgiven.resolve_left ?_⟩
    simp [hid]

theorem hasPlainId_of_integer {idField : String} {r : Record}
    (h : r.get? idField = none ∨ ∃ n, r.get? idField = some (.integer n)) : HasPlainId idField r := by
  intro id hid
  rcases h with h | ⟨n, h⟩
  · simp [h] at hid
  · cases h.symm.trans hid
    rfl

/-- What takes the place of a record with another id does not change what is found under the other ids. -/
theorem having_of_changed {t : Store} {n k : Int64} (hfield : t.idField = s.idField)
    (h : s.Appended stored t ∨ s.Replaced stored t) (hstored : stored.get? s.idField = some (.integer n))
    (hk : k ≠ n) (name : String) : t.having name (.integer k) = s.having name (.integer k) := by
  have hother {r : Record} (hr : r.get? s.idField = some (.integer n)) : s.hasId (.integer k) r = false := by
    rw [hasId_of_get? hr]
    simpa [Value.eqv] using hk.symm
  rcases h with h | ⟨id, pre, old, post, hid, hrecords, hold, -, h⟩
  · refine having_of_appended hfield (fun name => ?_) (hother hstored)
    rw [h]
    split
    · next hname => rw [hname]
    · rfl
  · cases hid.symm.trans hstored
    exact having_of_replaced hfield hrecords h (hother (hasId_integer_iff.mp hold)) (hother hstored)

end Store

/-! ## Laws -/

namespace Template

/-- What it means that an entity was saved, so that it is now `saved`: it has an id, by which it is found, the number
of entities has grown by `more`, and for all other ids the answer is the same as before. -/
def Saves (m : Mapping) (type : TypeName) (member : String) (more : Nat) (s s' : Store) (saved : Object) : Prop :=
  ∃ n count, saved.get? member = some (.scalar .int64 n) ∧
    ((ofStore m).findById type (some (.integer n)) s').result = .ok (some saved) ∧
    ((ofStore m).count type s).result = .ok count ∧
    ((ofStore m).count type s').result = .ok (count + more) ∧
    ∀ k ≠ n, (ofStore m).findById type (some (.integer k)) s' = (ofStore m).findById type (some (.integer k)) s

/-- What it means that a record was looked for to be deleted, and was `found` or not: it is not found any more, there
is one entity less if it was, and for all other ids the answer is the same as before. -/
def Removes (m : Mapping) (type : TypeName) (n : Int64) (found : Bool) (s s' : Store) : Prop :=
  ((ofStore m).findById type (some (.integer n)) s').result = .ok none ∧
    (∃ count, ((ofStore m).count type s).result = .ok (count + found.toNat) ∧
      ((ofStore m).count type s').result = .ok count) ∧
    ∀ k ≠ n, (ofStore m).findById type (some (.integer k)) s' = (ofStore m).findById type (some (.integer k)) s

/-- What insertions, updates, deletions and searches keep to, for the entities of a type whose records go by `name`
and whose id is the member `member`. -/
structure KeepsLaws (m : Mapping) (type : TypeName) (name member : String) (s : Store) : Prop where
  insert : ∀ entity saved, ((ofStore m).insert type entity s).1.result = .ok saved →
    Saves m type member 1 s ((ofStore m).insert type entity s).2 saved
  update : ∀ entity saved, ((ofStore m).update type entity s).1.result = .ok saved →
    Saves m type member 0 s ((ofStore m).update type entity s).2 saved
  delete : ∀ n, ∃ found, ((ofStore m).deleteById type (some (.integer n)) s).1.result = .ok found ∧
    (found = true ↔ ∃ r ∈ s.collection name, r.get? s.idField = some (.integer n)) ∧
    Removes m type n found s ((ofStore m).deleteById type (some (.integer n)) s).2
  /-- The records of other names are left alone, whether or not the call succeeds. -/
  elsewhere : ∀ other ≠ name,
    (∀ entity, ((ofStore m).insert type entity s).2.collection other = s.collection other) ∧
    (∀ entity, ((ofStore m).update type entity s).2.collection other = s.collection other) ∧
    ∀ id, ((ofStore m).deleteById type id s).2.collection other = s.collection other
  /-- A failed insertion or update changes the answer for the id of the record at most that it has stored. -/
  failed : ∀ entity k,
    ((∀ stored, m.recordWorkflow.Stores type entity Store.manager.insert s stored →
        stored.get? s.idField ≠ some (.integer k)) →
      (ofStore m).findById type (some (.integer k)) ((ofStore m).insert type entity s).2 =
        (ofStore m).findById type (some (.integer k)) s) ∧
    ((∀ stored, m.recordWorkflow.Stores type entity Store.manager.update s stored →
        stored.get? s.idField ≠ some (.integer k)) →
      (ofStore m).findById type (some (.integer k)) ((ofStore m).update type entity s).2 =
        (ofStore m).findById type (some (.integer k)) s)
  /-- No search finds two records, so an error that says so was raised by the attribute converter of a field. -/
  unique : ∀ id method, ((ofStore m).findById type id s).result = .error (.nonUniqueResult method) →
    m.converter.Raises (.nonUniqueResult method)

section Laws

variable {D : DeclaredSchema} {m : Mapping} {type : TypeName} {d : Declaration} {i : Member} {s : Store}
  {entity : Option Object} {saved : Object} {action : StorageAction Store MapError Record}

/-- What reaches the storage action is a record that was written for the entity as the observers left it. -/
theorem exists_write_of_start {t : EntityType} {given : Record}
    (h : (m.recordWorkflow.start type entity).result = .ok (t, given)) :
    ∃ o, entity = some o ∧ (m.converter.write type (m.observers.leave t o)).result = .ok given := by
  have ht := Workflow.entity_of_start h
  cases entity with
  | none => cases h
  | some o =>
    by_cases hvalid : m.validator o = []
    · rw [Workflow.start_of_valid (c := m.converter) .record ht hvalid] at h
      refine ⟨o, rfl, ?_⟩
      have hname := Schema.typeName_of_entity ht
      cases hstore : (m.converter.write t.typeName (m.observers.leave t o)).result with
      | error e =>
        simp only [Mapping.recordWorkflow, Converter.recordFamily, hstore] at h
        cases h
      | ok r =>
        simp only [Mapping.recordWorkflow, Converter.recordFamily, hstore] at h
        cases h
        rw [← hname]
        exact hstore
    · rw [Workflow.start_some ht, Workflow.prepare_of_violations hvalid] at h
      cases h

/-- A run that succeeds has written a record, stored it, and read what was stored. -/
theorem exists_of_flow_ok (h : (m.recordWorkflow.flow id type entity action s).1.result = .ok saved) :
    ∃ o given stored, (m.converter.write type o).result = .ok given ∧ (action given s).1 = .ok stored ∧
      (m.converter.read type stored).result = .ok saved ∧
      (m.recordWorkflow.flow id type entity action s).2 = (action given s).2 := by
  rcases m.recordWorkflow.flow_cases id type entity action s with
    ⟨e, -, hresult, -⟩ | ⟨t, given, e, -, -, hresult, -⟩ | ⟨t, given, stored, hstart, haction, hresult, hstore⟩
  · simp [hresult] at h
  · simp [hresult] at h
  · obtain ⟨o, -, ho⟩ := exists_write_of_start hstart
    refine ⟨_, given, stored, ho, haction, ?_, hstore⟩
    rw [hresult] at h
    cases hread : (m.converter.read type stored).result with
    | error e =>
      simp only [Mapping.recordWorkflow, Converter.recordFamily, hread] at h
      cases h
    | ok o =>
      simp only [Mapping.recordWorkflow, Converter.recordFamily, hread] at h
      exact h

variable (hm : m.converter.schema = D.toSchema) (hi : D.HasIntegerId type d i s.idField)
include hm hi

/-- What is found under an id depends on the records that have it. -/
theorem findById_congr {s' : Store} {id : Value} (hfield : s'.idField = s.idField)
    (h : s'.having d.entityType.name id = s.having d.entityType.name id) :
    (ofStore m).findById type (some id) s' = (ofStore m).findById type (some id) s := by
  have ht := hm ▸ hi.entity
  rw [findById_eq ht hi.id?_entityType hi.stored, findById_eq ht hi.id?_entityType (hi.stored.trans hfield.symm), h]

/-- What a record that was saved means for the searches. -/
theorem saves_of_changed {s' : Store} {stored : Record} {n : Int64} {more : Nat} (hvalid : s'.Valid)
    (hfield : s'.idField = s.idField) (hread : (m.converter.read type stored).result = .ok saved)
    (hstored : stored.get? s.idField = some (.integer n)) (hmem : stored ∈ s'.collection d.entityType.name)
    (hlength : (s'.collection d.entityType.name).length = (s.collection d.entityType.name).length + more)
    (hchanged : s.Appended stored s' ∨ s.Replaced stored s') : Saves m type i.name more s s' saved := by
  have ht := hm ▸ hi.entity
  refine ⟨n, (s.collection d.entityType.name).length, hi.get?_of_read hm hstored hread, ?_, result_count ht, ?_,
    fun k hk => findById_congr hm hi hfield (Store.having_of_changed hfield hchanged hstored hk _)⟩
  · have hid : s'.hasId (.integer n) stored = true := Store.hasId_integer_iff.mpr (hfield.symm ▸ hstored)
    have hone := hvalid.having_eq hmem hid
    rw [findById_eq ht hi.id?_entityType (hi.stored.trans hfield.symm), hone, result_answer_singleton, hread]
    rfl
  · rw [result_count ht, hlength]

theorem saves_insert (hvalid : s.Valid) (h : ((ofStore m).insert type entity s).1.result = .ok saved) :
    Saves m type i.name 1 s ((ofStore m).insert type entity s).2 saved := by
  obtain ⟨o, given, stored, hwrite, haction, hread, hstore⟩ := exists_of_flow_ok h
  obtain ⟨hname, hgiven⟩ := hi.get?_of_write hm hwrite
  obtain ⟨hstoredname, n, hstored⟩ := Store.get?_of_insert hgiven haction
  have happended := Store.appended_insert haction
  have hrecords : (s.insert given).2.collection d.entityType.name =
      s.collection d.entityType.name ++ [stored] := by
    rw [happended, if_pos (hstoredname.trans hname).symm]
  have hs' : ((ofStore m).insert type entity s).2 = (s.insert given).2 := hstore
  rw [hs']
  refine saves_of_changed hm hi (hvalid.insert (Store.hasPlainId_of_integer hgiven)) (s.idField_insert given) hread
    hstored ?_ ?_ (.inl happended)
  · simp [hrecords]
  · simp [hrecords]

theorem saves_update (hvalid : s.Valid) (h : ((ofStore m).update type entity s).1.result = .ok saved) :
    Saves m type i.name 0 s ((ofStore m).update type entity s).2 saved := by
  obtain ⟨o, given, stored, hwrite, haction, hread, hstore⟩ := exists_of_flow_ok h
  obtain ⟨hname, hgiven⟩ := hi.get?_of_write hm hwrite
  obtain ⟨hstoredname, n, hstored⟩ := Store.get?_of_update hgiven haction
  have hreplaced := Store.replaced_update haction
  obtain ⟨id, pre, old, post, -, hbefore, -, -, hafter⟩ := hreplaced
  rw [hstoredname.trans hname] at hbefore
  have hrecords : (s.update given).2.collection d.entityType.name = pre ++ stored :: post := by
    rw [hafter, if_pos (hstoredname.trans hname).symm]
  have hs' : ((ofStore m).update type entity s).2 = (s.update given).2 := hstore
  rw [hs']
  refine saves_of_changed hm hi (hvalid.update (Store.hasPlainId_of_integer hgiven)) (s.idField_update given) hread
    hstored ?_ ?_ (.inr (Store.replaced_update haction))
  · simp [hrecords]
  · simp [hrecords, hbefore]

theorem removes_delete (hvalid : s.Valid) (n : Int64) :
    ∃ found, ((ofStore m).deleteById type (some (.integer n)) s).1.result = .ok found ∧
      (found = true ↔ ∃ r ∈ s.collection d.entityType.name, r.get? s.idField = some (.integer n)) ∧
      Removes m type n found s ((ofStore m).deleteById type (some (.integer n)) s).2 := by
  have ht := hm ▸ hi.entity
  have hid := hi.id?_entityType
  have hfield : (s.delete (s.byId d.entityType.name (.integer n))).2.idField = s.idField := rfl
  have hlength := (s.length_delete d.entityType.name (.integer n)).2
  have hone := hvalid.length_having_le d.entityType.name (.integer n)
  rw [deleteById_eq ht hid hi.stored]
  refine ⟨_, rfl, ?_, ?_, ⟨_, ?_, result_count ht⟩, fun k hk => ?_⟩
  · rw [decide_eq_true_iff, List.length_pos_iff_exists_mem]
    refine exists_congr fun r => ?_
    rw [Store.having, List.mem_filter, Store.hasId_integer_iff]
  · rw [findById_eq ht hid (hi.stored.trans hfield.symm), Store.having_delete_self, result_answer_nil]
  · rw [result_count ht, hlength]
    congr 2
    -- there is one record with the id, or none
    rcases Nat.le_one_iff_eq_zero_or_eq_one.mp hone with hnone | hsome
    · simp [hnone]
    · simp [hsome]
  · refine findById_congr hm hi hfield (Store.having_delete_of_ne fun r _ hr => ?_)
    rw [Store.hasId_of_get? (Store.hasId_integer_iff.mp hr)]
    simpa [Value.eqv] using hk

omit hi in
/-- A run changes the records of the name of its type only. -/
theorem collection_flow {t : EntityType} (ht : D.entity type = .ok t)
    (haction : ∀ given other, other ≠ given.name → (action given s).2.collection other = s.collection other)
    {other : String} (hother : other ≠ t.name) :
    (m.recordWorkflow.flow id type entity action s).2.collection other = s.collection other := by
  rcases m.recordWorkflow.flow_snd id type entity action s with hstore | ⟨t', given, hstart, hstore⟩
  · rw [hstore]
  · rw [hstore]
    refine haction given other ?_
    obtain ⟨o, -, ho⟩ := exists_write_of_start hstart
    obtain ⟨t'', fields, ht'', -, -, rfl⟩ := Converter.write_eq_ok.mp ho
    cases (hm ▸ ht).symm.trans ht''
    exact hother

theorem collection_elsewhere {other : String} (hother : other ≠ d.entityType.name) :
    (∀ entity, ((ofStore m).insert type entity s).2.collection other = s.collection other) ∧
      (∀ entity, ((ofStore m).update type entity s).2.collection other = s.collection other) ∧
      ∀ id, ((ofStore m).deleteById type id s).2.collection other = s.collection other := by
  have ht := hm ▸ hi.entity
  refine ⟨fun entity => collection_flow hm hi.entity (fun given other h => ?_) hother,
    fun entity => collection_flow hm hi.entity (fun given other h => ?_) hother, fun id => ?_⟩
  · show (s.insert given).2.collection other = _
    rcases s.insert_cases given with ⟨-, -, hsame⟩ | ⟨-, -, hcollection⟩
    · exact hsame other
    · rw [hcollection, if_neg h]
  · show (s.update given).2.collection other = _
    rcases s.update_cases given with ⟨-, hsame⟩ | ⟨_, _, _, _, -, -, -, -, -, hcollection⟩
    · rw [hsame]
    · rw [hcollection, if_neg h]
  · cases id with
    | none => rfl
    | some id =>
      rw [deleteById_eq ht hi.id?_entityType hi.stored, Store.collection_delete_byId, if_neg hother]

/-- A run over a store whose action leaves the records as they are, or changes one of them, changes the answer for
the id of this one at most. -/
theorem findById_flow {k : Int64} (hfield : ∀ given, (action given s).2.idField = s.idField)
    (hfailure : ∀ given e, (action given s).1 = .error e → s.SameRecords (action given s).2)
    (hsuccess : ∀ given stored, (action given s).1 = .ok stored →
      s.Appended stored (action given s).2 ∨ s.Replaced stored (action given s).2)
    (hinteger : ∀ given stored, (given.get? s.idField = none ∨ ∃ n, given.get? s.idField = some (.integer n)) →
      (action given s).1 = .ok stored → ∃ n, stored.get? s.idField = some (.integer n))
    (hk : ∀ stored, m.recordWorkflow.Stores type entity action s stored → stored.get? s.idField ≠ some (.integer k)) :
    (ofStore m).findById type (some (.integer k)) (m.recordWorkflow.flow id type entity action s).2 =
      (ofStore m).findById type (some (.integer k)) s := by
  rcases m.recordWorkflow.flow_snd id type entity action s with hstore | ⟨t, given, hstart, hstore⟩
  · rw [hstore]
  · rw [hstore]
    refine findById_congr hm hi (hfield given) ?_
    cases haction : (action given s).1 with
    | error e => exact Store.having_congr (hfield given) (hfailure given e haction _)
    | ok stored =>
      obtain ⟨o, -, ho⟩ := exists_write_of_start hstart
      obtain ⟨n, hn⟩ := hinteger given stored (hi.get?_of_write hm ho).2 haction
      refine Store.having_of_changed (hfield given) (hsuccess given stored haction) hn ?_ _
      rintro rfl
      exact hk stored ⟨t, given, hstart, haction⟩ hn

/-- No search finds two records, so an error that says so was raised by the attribute converter of a field. -/
theorem raises_of_nonUniqueResult (hvalid : s.Valid) {id : Option Value} {method : String}
    (h : ((ofStore m).findById type id s).result = .error (.nonUniqueResult method)) :
    m.converter.Raises (.nonUniqueResult method) := by
  cases id with
  | none => cases h
  | some id =>
    rw [findById_eq (hm ▸ hi.entity) hi.id?_entityType hi.stored] at h
    have hone := hvalid.length_having_le d.entityType.name id
    match hfound : s.having d.entityType.name id with
    | [] =>
      rw [hfound, result_answer_nil] at h
      cases h
    | [r] =>
      rw [hfound, result_answer_singleton] at h
      cases hread : (m.converter.read type r).result with
      | ok o =>
        rw [hread] at h
        cases h
      | error e =>
        rw [hread] at h
        cases h
        exact (m.converter.read_eq_error type r hread).resolve_left (by simp [MapError.ofReading])
    | a :: b :: rs => simp [hfound] at hone

end Laws

/-- **In a store that is reachable, insertions, updates, deletions and searches by an integer id keep to their
laws.** -/
theorem keepsLaws (D : DeclaredSchema) (m : Mapping) (type : TypeName) (d : Declaration) (i : Member) (s : Store)
    (hs : s.Reachable) (hm : m.converter.schema = D.toSchema) (hi : D.HasIntegerId type d i s.idField) :
    KeepsLaws m type d.entityType.name i.name s where
  insert _ _ := saves_insert hm hi hs.valid
  update _ _ := saves_update hm hi hs.valid
  delete := removes_delete hm hi hs.valid
  elsewhere _ := collection_elsewhere hm hi
  failed _ _ :=
    ⟨findById_flow hm hi s.idField_insert (fun _ _ => Store.sameRecords_insert)
      (fun _ _ h => .inl (Store.appended_insert h)) fun _ _ h h' => (Store.get?_of_insert h h').2,
    findById_flow hm hi s.idField_update (fun _ _ => Store.sameRecords_update)
      (fun _ _ h => .inr (Store.replaced_update h)) fun _ _ h h' => (Store.get?_of_update h h').2⟩
  unique _ _ := raises_of_nonUniqueResult hm hi hs.valid

/-- Counted pages, with an optional id. -/
def visitSchema : DeclaredSchema where
  types := [Workflow.visitDeclaration].map Declaration.describe
  depth _ := 0
  depth_lt := by decide
  declarations := [Workflow.visitDeclaration]
  types_eq := rfl
  nodup_members := by decide
  exists_target := by decide
  start_eq := by decide

/-- The mapping of counted pages, which are counted on when they are saved. -/
def visitMapping : Mapping := ⟨.ofSchema visitSchema.toSchema, [Workflow.counting], .lenient⟩

/-- The store with one page. -/
def visitStore : Store :=
  ((ofStore visitMapping).insert "Visit" (some (Workflow.visit 3 1)) (.empty "id" 1)).2

theorem keepsLaws_visitStore :
    visitStore.Reachable ∧ visitMapping.converter.schema = visitSchema.toSchema ∧
      visitSchema.HasIntegerId "Visit" Workflow.visitDeclaration
        (Member.optional "id" "Option<i64>" ⟨"i64", .value .int64⟩).asId visitStore.idField ∧
      KeepsLaws visitMapping "Visit" "Visit" "id" visitStore := by
  have hreachable : visitStore.Reachable := by
    refine .insert visitMapping "Visit" (some (Workflow.visit 3 1)) (.empty "id" 1) fun t given hstart => ?_
    have hgiven : (visitMapping.recordWorkflow.start "Visit" (some (Workflow.visit 3 1))).result.map Prod.snd =
        .ok ⟨"Visit", [("id", .integer 3), ("count", .integer 2)]⟩ := by cbv
    rw [hstart] at hgiven
    cases hgiven
    exact Store.hasPlainId_of_integer (.inr ⟨3, rfl⟩)
  have hid : visitSchema.HasIntegerId "Visit" Workflow.visitDeclaration
      (Member.optional "id" "Option<i64>" ⟨"i64", .value .int64⟩).asId visitStore.idField := by
    refine ⟨rfl, by decide, List.mem_cons_self, rfl, rfl, rfl, by cbv, ?_⟩
    have hnames : visitSchema.flatNames "Visit" = ["id", "count"] := by cbv
    simp [hnames]
  exact ⟨hreachable, rfl, hid, keepsLaws visitSchema visitMapping "Visit" _ _ visitStore hreachable rfl hid⟩

/-! ## Records that are there and cannot be had -/

/-- A type with a label that is stored under the name of an embedded member. -/
def residentDeclaration : Declaration where
  name := "Resident"
  typeName := "Resident"
  embeddable := false
  recordName := none
  members :=
    [(Member.optional "id" "Option<i64>" ⟨"i64", .value .int64⟩).asId,
      .optional "note" "Option<Note>" ⟨"Note", .embedded "Note"⟩,
      (Member.optional "label" "Option<String>" ⟨"String", .value .text⟩).named "note"]
  start := none
  order _ _ := .eq

/-- Answers that there are several results, whatever there is to read. -/
def undecided : ConverterRef where
  name := "Undecided"
  fresh := {
    toRecord := .ok
    toEntity := fun _ => .error (.nonUniqueResult "decide") }

/-- A type whose verdicts cannot be read. -/
def trialDeclaration : Declaration where
  name := "Trial"
  typeName := "Trial"
  embeddable := false
  recordName := none
  members :=
    [(Member.optional "id" "Option<i64>" ⟨"i64", .value .int64⟩).asId,
      (Member.optional "verdict" "Option<String>" ⟨"String", .value .text⟩).via undecided]
  start := none
  order _ _ := .eq

/-- Residents with their notes, and trials. -/
def townSchema : DeclaredSchema where
  types := [DeclaredSchema.noteDeclaration, residentDeclaration, trialDeclaration].map Declaration.describe
  depth u := if u = "Resident" then 1 else 0
  depth_lt := by decide
  declarations := [DeclaredSchema.noteDeclaration, residentDeclaration, trialDeclaration]
  types_eq := rfl
  nodup_members := by decide
  exists_target := by decide
  start_eq := by decide

/-- The mapping of residents and trials. -/
def townMapping : Mapping := ⟨.ofSchema townSchema.toSchema, [], .lenient⟩

/-- The store with one resident and one trial. -/
def townStore : Store :=
  ((Store.empty "id" 1).step (.insert ⟨"Resident", [("id", .integer 1)]⟩)).step
    (.insert ⟨"Trial", [("id", .integer 1), ("verdict", .text "x")]⟩)

/-- A record whose type is refused is there and not deleted, and an attribute converter may complain of several
results where there is one. -/
theorem resident_kept_trial_undecided :
    townStore.Reachable ∧ townStore.idField = "id" ∧
      ((Member.optional "id" "Option<i64>" ⟨"i64", .value .int64⟩).asId ∈ residentDeclaration.mapped ∧
        (townSchema.flatNames "Resident").Nodup ∧
        townStore.collection "Resident" = [⟨"Resident", [("id", .integer 1)]⟩] ∧
        ((ofStore townMapping).deleteById "Resident" (some (.integer 1)) townStore).1.result =
          .error (.invalidArgument (.repeatedName "Resident" "note"))) ∧
      townSchema.HasIntegerId "Trial" trialDeclaration
        (Member.optional "id" "Option<i64>" ⟨"i64", .value .int64⟩).asId townStore.idField ∧
      ((ofStore townMapping).findById "Trial" (some (.integer 1)) townStore).result =
        .error (.nonUniqueResult "decide") := by
  have hreachable : townStore.Reachable :=
    .call (.call (.empty "id" 1) (Store.hasPlainId_of_integer (.inr ⟨1, rfl⟩)))
      (Store.hasPlainId_of_integer (.inr ⟨1, rfl⟩))
  have hresident : townSchema.flatNames "Resident" = ["id", "text", "note"] := by cbv
  have htrial : townSchema.flatNames "Trial" = ["id", "verdict"] := by cbv
  refine ⟨hreachable, rfl, ⟨List.mem_cons_self, by simp [hresident], by cbv, by cbv⟩, ?_, by cbv⟩
  exact ⟨rfl, by decide, List.mem_cons_self, rfl, rfl, rfl, by cbv, by simp [htrial]⟩

end Template
end EntityMapping
