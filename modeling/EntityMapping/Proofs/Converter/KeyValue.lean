import EntityMapping.KeyValue
import EntityMapping.Proofs.Converter.Failure
import EntityMapping.Proofs.Converter.OwnNames
import EntityMapping.Proofs.Converter.RoundTrip

/-!
# Pairs of keys and values

An object becomes a pair of the stored value of its id and of its whole record, so its id is in the pair twice. From the
pair the same is read as from the record, and this is still so if the storage has dropped the id from the record: the
id comes back at another place, but the order of the fields does not matter.

* `Converter.someFieldFails_of_write` — no conversion to a record misses an id
* `Converter.toKeyValue_cases`, `Converter.toKeyValue_eq_ok_iff` — a pair from a record, if there is one
* `RecordOf.get?_add_remove` — a field that is removed and added again
* `Converter.keyValue_keyedById` — what holds of all pairs
* `Converter.idNotFound_labelled_voucher` — a missing id that is not complained of, and a complaint without one
-/

namespace EntityMapping

/-- A field that is removed and added again is found as before, and so are the others. -/
theorem RecordOf.get?_add_remove {V : Type} {r : RecordOf V} {name : String} {v : V} (hnodup : r.names.Nodup)
    (hget : r.get? name = some v) (key : String) : ((r.remove name).add name v).get? key = r.get? key := by
  rw [get?_add]
  by_cases hkey : key = name
  · rw [if_pos hkey, hkey, hget]
  · rw [if_neg hkey, get?_remove hnodup, if_neg hkey]

theorem Schema.entity_ne_idNotFound {S : Schema} {type : TypeName} {name : String} :
    S.entity type ≠ .error (.idNotFound name) := by
  intro h
  cases ofReading_of_entity h

namespace Converter

variable {c : Converter} {type : TypeName} {t : EntityType} {id f : FieldMapping} {o : Object} {r : Record}
  {name : String}

/-! ## Conversions to records -/

/-- Without repeated names in a type, there are none in its records. -/
theorem nodup_names_of_write (h : (c.write type o).result = .ok r) (hnames : (c.schema.flatNames type).Nodup) :
    r.names.Nodup := by
  obtain ⟨ks, hks, hr⟩ := exists_of_write h
  have hnodup := nodup_populated h hnames
  rw [← map_fst_of_contributions hks] at hnodup
  rwa [RecordOf.names, hr, Fields.addAll_of_nodup hnodup]

/-- Whether there is a value that the attribute converter of a field answers with an error. -/
def FieldFails (c : Converter) (f : FieldMapping) (e : MapError) : Prop :=
  ∃ ref v, f.converter = some ref ∧ (c.attributes.resolve ref).toRecord v = .error e

/-- Whether some field of the mapped types is one whose attribute converter answers with an error. -/
def SomeFieldFails (c : Converter) (e : MapError) : Prop := ∃ d ∈ c.schema.types, ∃ f ∈ d.fields, c.FieldFails f e

/-- A plain value is stored, unless its attribute converter fails. -/
theorem fieldFails_of_storedValue {v : Value} {e : MapError} (h : (c.storedValue f v).result = .error e) :
    c.FieldFails f e := by
  unfold storedValue at h
  split at h
  · next ref href => exact ⟨ref, v, href, h⟩
  · cases h

/-- A field fails with its attribute converter, with a type that is refused, or with an object inside. -/
theorem exists_of_parts_eq_error {e : MapError} (h : (c.parts o f).result = .error e) :
    c.FieldFails f e ∨ (∃ u, c.schema.entity u = .error e) ∨
      ∃ u p, sizeOf p < sizeOf o ∧ (c.write u p).result = .error e := by
  cases hread : f.read o with
  | none =>
    rw [parts_of_none hread] at h
    cases h
  | some x =>
    have hlt := FieldMapping.sizeOf_lt_of_read hread
    cases x with
    | scalar st x =>
      rw [parts_of_scalar hread, bind_ok_eq_error_iff] at h
      exact .inl (fieldFails_of_storedValue h)
    | object p =>
      rw [Datum.object.sizeOf_spec] at hlt
      have hp : sizeOf p < sizeOf o := by omega
      rw [parts_of_object hread] at h
      split at h
      · next u _ => exact .inr (.inr ⟨u, p, hp, bind_ok_eq_error_iff.mp h⟩)
      · next u _ => exact .inr (.inr ⟨u, p, hp, bind_ok_eq_error_iff.mp h⟩)
      · cases h
    | collection kind item items =>
      rw [parts_of_collection hread] at h
      rcases bind_eq_error.mp h with hitem | ⟨_, -, hitems⟩
      · exact .inr (.inl ⟨item, hitem⟩)
      · obtain ⟨p, hp, hwrite⟩ := exists_of_mapM_eq_error (bind_ok_eq_error_iff.mp hitems)
        have hmem := List.sizeOf_lt_of_mem hp
        rw [Datum.collection.sizeOf_spec] at hlt
        exact .inr (.inr ⟨item, p, by omega, hwrite⟩)

/-- That an id is missing is not what a conversion to a record complains of, unless an attribute converter does. -/
theorem someFieldFails_of_write {type : TypeName} {o : Object}
    (h : (c.write type o).result = .error (.idNotFound name)) : c.SomeFieldFails (.idNotFound name) := by
  rw [write] at h
  simp only [Traced.result_bind, entity, Traced.result_lift, bind_eq_error] at h
  rcases h with hentity | ⟨t, ht, h⟩
  · exact absurd hentity Schema.entity_ne_idNotFound
  split at h
  · simp only [Traced.result_bind, Traced.result_mapM, bind_eq_error] at h
    rcases h with hfields | ⟨_, -, h⟩
    · obtain ⟨f, hf, hparts⟩ := exists_of_mapM_eq_error hfields
      rcases exists_of_parts_eq_error (f := f) hparts with hfails | ⟨u, hentity⟩ | ⟨u, p, hlt, hwrite⟩
      · obtain ⟨d, hd, hfield⟩ := Schema.exists_mem_types_of_mem_fields ht hf
        exact ⟨d, hd, f, hfield, hfails⟩
      · exact absurd hentity Schema.entity_ne_idNotFound
      · exact someFieldFails_of_write hwrite
    · cases h
  · cases h
termination_by sizeOf o

/-! ## Pairs -/

theorem entity_bind {α : Type} (ht : c.schema.entity type = .ok t) (k : EntityType → Conversion α) :
    c.entity type >>= k = k t := by
  rw [entity, ht]
  exact pure_bind t k

theorem toKeyValue_of_none (ht : c.schema.entity type = .ok t) (hid : t.id? = none) (o : Object) :
    c.toKeyValue type o = .fail (.idNotFound t.name) := by
  rw [toKeyValue, entity_bind ht, hid]

/-- With an id field, a pair is made of the record. -/
theorem toKeyValue_of_some (ht : c.schema.entity type = .ok t) (hid : t.id? = some id) (o : Object) :
    (c.toKeyValue type o).result = (c.write type o).result >>= fun r =>
      match r.get? id.name with
      | some key => .ok ⟨key, r⟩
      | none => .error (.idNotFound t.name) := by
  rw [toKeyValue, entity_bind ht, hid]
  simp only [Traced.result_bind]
  congr 1
  funext r
  cases r.get? id.name <;> rfl

theorem ofKeyValue_of_contains (ht : c.schema.entity type = .ok t) (hid : t.id? = some id)
    (h : r.contains id.name = true) (key : Value) : c.ofKeyValue type ⟨key, r⟩ = c.read type r := by
  rw [ofKeyValue, entity_bind ht, recordOfKeyValue, hid]
  simp only [h, if_true]

/-- From a record without the id the same is read, if the key is the id. -/
theorem ofKeyValue_remove (ht : c.schema.entity type = .ok t) (hid : t.id? = some id) (hnodup : r.names.Nodup)
    {key : Value} (hget : r.get? id.name = some key) :
    c.ofKeyValue type ⟨key, r.remove id.name⟩ = c.read type r := by
  have hremoved : (r.remove id.name).contains id.name = false := by
    rw [RecordOf.contains_eq_isSome, RecordOf.get?_remove hnodup, if_pos rfl]
    rfl
  rw [ofKeyValue, entity_bind ht, recordOfKeyValue, hid]
  simp only [hremoved, Bool.false_eq_true, if_false]
  exact read_congr c type fun name _ => RecordOf.get?_add_remove hnodup hget name

/-- The record of an object with an id has the stored value of it, and any other record has none. -/
theorem get?_id (ht : c.schema.entity type = .ok t) (hnames : (c.schema.flatNames type).Nodup)
    (hwrite : (c.write type o).result = .ok r) (hid : t.id? = some id) {st : ScalarType}
    (hshape : id.shape = .value st) :
    (id.read o = none ∧ r.get? id.name = none) ∨
      ∃ x key, id.read o = some (.scalar st x) ∧ (c.storedValue id (st.encode x)).result = .ok key ∧
        r.get? id.name = some key := by
  obtain ⟨-, -, -, rfl, -⟩ := write_eq_ok.mp hwrite
  have hmem : id ∈ t.fields := List.mem_of_find?_eq_some hid
  have hembeds : id.embeds? = none := by simp [FieldMapping.embeds?, hshape]
  have hname : id.name ∈ c.schema.namesOf id := by
    rw [Schema.namesOf, hembeds]
    exact List.mem_singleton_self _
  have halone : ∀ f ∈ t.fields, id.name ∈ c.schema.namesOf f → f = id :=
    fun _ hf => Schema.eq_of_mem_namesOf ht hnames hmem hf hname
  exact get?_of_value hwrite ht hmem halone hshape

section Identified

variable (ht : c.schema.entity type = .ok t) (hnames : (c.schema.flatNames type).Nodup)
  (hvalue : ∀ id, t.id? = some id → ∃ st, id.shape = .value st)
include ht hnames hvalue

/-- All that can become of an object: there is no id field, the conversion to a record fails, there is no id, or there
is a pair. -/
theorem toKeyValue_cases (o : Object) :
    (t.id? = none ∧ (c.toKeyValue type o).result = .error (.idNotFound t.name)) ∨
      ∃ id, t.id? = some id ∧
        ((∃ e, (c.write type o).result = .error e ∧ (c.toKeyValue type o).result = .error e) ∨
          ∃ r, (c.write type o).result = .ok r ∧
            ((id.isNull o = true ∧ (c.toKeyValue type o).result = .error (.idNotFound t.name)) ∨
              ∃ st x key, id.read o = some (.scalar st x) ∧ (c.storedValue id (st.encode x)).result = .ok key ∧
                r.get? id.name = some key ∧ (c.toKeyValue type o).result = .ok ⟨key, r⟩)) := by
  cases hid : t.id? with
  | none =>
    rw [toKeyValue_of_none ht hid]
    exact .inl ⟨rfl, rfl⟩
  | some id =>
    obtain ⟨st, hshape⟩ := hvalue id hid
    refine .inr ⟨id, rfl, ?_⟩
    cases hwrite : (c.write type o).result with
    | error e =>
      rw [toKeyValue_of_some ht hid, hwrite]
      exact .inl ⟨e, rfl, rfl⟩
    | ok r =>
      have hresult := toKeyValue_of_some ht hid o
      rw [hwrite] at hresult
      simp only [bind, Except.bind] at hresult
      refine .inr ⟨r, rfl, ?_⟩
      rcases get?_id ht hnames hwrite hid hshape with ⟨hread, hget⟩ | ⟨x, key, hread, hstored, hget⟩
      · rw [hget] at hresult
        exact .inl ⟨by rw [FieldMapping.isNull, hread]; rfl, hresult⟩
      · rw [hget] at hresult
        exact .inr ⟨st, x, key, hread, hstored, hget, hresult⟩

/-- An id is missing without an id field, and without an id in an object that is otherwise converted. That the
conversion has complained of the same is the only other reason to say so. -/
theorem toKeyValue_eq_idNotFound_iff :
    (c.toKeyValue type o).result = .error (.idNotFound t.name) ↔
      t.id? = none ∨ ∃ id, t.id? = some id ∧
        ((∃ r, (c.write type o).result = .ok r ∧ id.isNull o = true) ∨
          (c.write type o).result = .error (.idNotFound t.name)) := by
  rcases toKeyValue_cases ht hnames hvalue o with
    ⟨hid, hresult⟩ | ⟨id, hid, ⟨e, hwrite, hresult⟩ | ⟨r, hwrite, hrest⟩⟩
  · simp [hresult, hid]
  · simp [hresult, hid, hwrite]
  rcases hrest with ⟨hnull, hresult⟩ | ⟨st, x, key, hread, -, -, hresult⟩
  · simp [hresult, hid, hwrite, hnull]
  · have hnull : id.isNull o = false := by
      rw [FieldMapping.isNull, hread]
      rfl
    simp [hresult, hid, hwrite, hnull]

/-- A pair is made of the stored value of the id and of the record, which has it, too. -/
theorem exists_of_toKeyValue {p : KeyValue} (h : (c.toKeyValue type o).result = .ok p) :
    (c.write type o).result = .ok p.value ∧ ∃ id st x, t.id? = some id ∧ id.read o = some (.scalar st x) ∧
      (c.storedValue id (st.encode x)).result = .ok p.key ∧ p.value.get? id.name = some p.key := by
  rcases toKeyValue_cases ht hnames hvalue o with ⟨-, hresult⟩ | ⟨id, hid, ⟨e, -, hresult⟩ | ⟨r, hwrite, hrest⟩⟩
  · cases hresult.symm.trans h
  · cases hresult.symm.trans h
  rcases hrest with ⟨-, hresult⟩ | ⟨st, x, key, hread, hstored, hget, hresult⟩
  · cases hresult.symm.trans h
  · cases hresult.symm.trans h
    exact ⟨hwrite, id, st, x, hid, hread, hstored, hget⟩

/-- There is a pair if there is a record and an id. -/
theorem toKeyValue_eq_ok_iff {p : KeyValue} :
    (c.toKeyValue type o).result = .ok p ↔
      (c.write type o).result = .ok p.value ∧ ∃ id st x, t.id? = some id ∧ id.read o = some (.scalar st x) ∧
        (c.storedValue id (st.encode x)).result = .ok p.key := by
  constructor
  · intro h
    obtain ⟨hwrite, id, st, x, hid, hread, hstored, -⟩ := exists_of_toKeyValue ht hnames hvalue h
    exact ⟨hwrite, id, st, x, hid, hread, hstored⟩
  · rintro ⟨hwrite, id, st, x, hid, hread, hstored⟩
    rcases toKeyValue_cases ht hnames hvalue o with ⟨hnone, -⟩ | ⟨id', hid', ⟨e, herror, -⟩ | ⟨r, hwrite', hrest⟩⟩
    · cases hnone.symm.trans hid
    · cases herror.symm.trans hwrite
    cases hid.symm.trans hid'
    cases hwrite.symm.trans hwrite'
    rcases hrest with ⟨hnull, -⟩ | ⟨st', x', key, hread', hstored', -, hresult⟩
    · rw [FieldMapping.isNull, hread] at hnull
      cases hnull
    · cases hread.symm.trans hread'
      cases hstored.symm.trans hstored'
      exact hresult

end Identified

/-- How an object becomes a pair of its id and its record, and what is read from the pair. -/
structure KeyedById (c : Converter) (type : TypeName) (t : EntityType) (o : Object) : Prop where
  /-- An id is missing without an id field, and without an id in an object that is otherwise converted. That the
  conversion has complained of the same is the only other reason to say so, -/
  missing_iff : (c.toKeyValue type o).result = .error (.idNotFound t.name) ↔
    t.id? = none ∨ ∃ id, t.id? = some id ∧
      ((∃ r, (c.write type o).result = .ok r ∧ id.isNull o = true) ∨
        (c.write type o).result = .error (.idNotFound t.name))
  /-- and only an attribute converter makes it do so. -/
  raised : ∀ name, (c.write type o).result = .error (.idNotFound name) → c.SomeFieldFails (.idNotFound name)
  /-- What the conversion complains of is passed on, whatever it is. -/
  failed : ∀ id e, t.id? = some id → (c.write type o).result = .error e → (c.toKeyValue type o).result = .error e
  /-- There is a pair if there is a record and an id. -/
  pair_iff : ∀ p, (c.toKeyValue type o).result = .ok p ↔
    (c.write type o).result = .ok p.value ∧ ∃ id st x, t.id? = some id ∧ id.read o = some (.scalar st x) ∧
      (c.storedValue id (st.encode x)).result = .ok p.key
  /-- From the pair the same is read as from the record, whatever the converter has done in between, -/
  read_pair : ∀ (reader : Converter) p, reader.schema = c.schema → (c.toKeyValue type o).result = .ok p →
    reader.ofKeyValue type p = reader.read type p.value
  /-- also after the id was removed from the record. -/
  read_removed : ∀ (reader : Converter) p id, reader.schema = c.schema → (c.toKeyValue type o).result = .ok p →
    t.id? = some id → reader.ofKeyValue type ⟨p.key, p.value.remove id.name⟩ = reader.read type p.value
  /-- If a record has the id, the key does not matter. -/
  key_unused : ∀ id r, t.id? = some id → r.contains id.name = true →
    ∀ key key', c.ofKeyValue type ⟨key, r⟩ = c.ofKeyValue type ⟨key', r⟩

theorem keyedById (ht : c.schema.entity type = .ok t) (hnames : (c.schema.flatNames type).Nodup)
    (hvalue : ∀ id, t.id? = some id → ∃ st, id.shape = .value st) (o : Object) : c.KeyedById type t o where
  missing_iff := toKeyValue_eq_idNotFound_iff ht hnames hvalue
  raised _ := someFieldFails_of_write
  failed id e hid hwrite := by
    rw [toKeyValue_of_some ht hid, hwrite]
    rfl
  pair_iff _ := toKeyValue_eq_ok_iff ht hnames hvalue
  read_pair reader p hschema h := by
    obtain ⟨-, id, _, _, hid, -, -, hget⟩ := exists_of_toKeyValue ht hnames hvalue h
    have hcontains : p.value.contains id.name = true := by
      rw [RecordOf.contains_eq_isSome, hget]
      rfl
    rw [← hschema] at ht
    exact ofKeyValue_of_contains ht hid hcontains p.key
  read_removed reader p id hschema h hid := by
    obtain ⟨hwrite, id', _, _, hid', -, -, hget⟩ := exists_of_toKeyValue ht hnames hvalue h
    cases hid.symm.trans hid'
    rw [← hschema] at ht
    exact ofKeyValue_remove ht hid (nodup_names_of_write hwrite hnames) hget
  key_unused id r hid hcontains key key' := by
    rw [ofKeyValue_of_contains ht hid hcontains, ofKeyValue_of_contains ht hid hcontains]

/-- **An object whose type is accepted, stores its fields under different names and has a plain value as its id becomes
a pair by its id, and is read from it as from its record. A type that is refused is refused here, too.** -/
theorem keyValue_keyedById (c : Converter) (type : TypeName) :
    (∀ e, c.schema.entity type = .error e →
      (∀ o, c.toKeyValue type o = .fail e) ∧ ∀ p, c.ofKeyValue type p = .fail e) ∧
    ∀ t, c.schema.entity type = .ok t → (c.schema.flatNames type).Nodup →
      (∀ id, t.id? = some id → ∃ st, id.shape = .value st) → ∀ o, c.KeyedById type t o := by
  refine ⟨fun e he => ⟨fun o => ?_, fun p => ?_⟩, fun t ht hnames hvalue o => keyedById ht hnames hvalue o⟩
  · rw [toKeyValue, entity, he]
    rfl
  · rw [ofKeyValue, entity, he]
    rfl

/-- Stores numbers as larger ones. -/
def serialNumber : ConverterRef where
  name := "SerialNumber"
  fresh := {
    toRecord := fun v =>
      match v with
      | .integer n => .ok (.integer (n + 1000))
      | v => .error (.typeMismatch (.expected "INTEGER" v))
    toEntity := fun v =>
      match v with
      | .integer n => .ok (.integer (n - 1000))
      | v => .error (.typeMismatch (.expected "INTEGER" v)) }

def seatDeclaration : Declaration where
  name := "Seat"
  typeName := "Seat"
  embeddable := true
  recordName := none
  members := [.required "row" "String" ⟨"String", .value .text⟩]
  start := none
  order _ _ := .eq

/-- A type whose id is stored by an attribute converter. -/
def ticketDeclaration : Declaration where
  name := "Ticket"
  typeName := "Ticket"
  embeddable := false
  recordName := none
  members :=
    [(((Member.optional "number" "Option<i64>" ⟨"i64", .value .int64⟩).asId).named "_id").via serialNumber,
      .optional "seat" "Option<Seat>" ⟨"Seat", .embedded "Seat"⟩]
  start := none
  order _ _ := .eq

/-- The converter of tickets. -/
def tickets : Converter := .ofSchema
  ⟨[seatDeclaration.describe, ticketDeclaration.describe], fun u => if u = "Ticket" then 1 else 0, by decide⟩

/-- A ticket for a seat in a row. -/
def ticket (number : Option Int64) (row : String) : Object :=
  ⟨"Ticket", [("number", number.map (.scalar .int64)),
    ("seat", some (.object ⟨"Seat", [("row", some (.scalar .text row))]⟩))]⟩

/-- A ticket is found under its serial number, and comes back from there without it. A ticket without a number is not
kept. -/
theorem keyValue_keyedById_tickets :
    (tickets.toKeyValue "Ticket" (ticket (some 7) "A")).result =
        .ok ⟨.integer 1007, ⟨"Ticket", [("_id", .integer 1007), ("row", .text "A")]⟩⟩ ∧
      (tickets.ofKeyValue "Ticket" ⟨.integer 1007, ⟨"Ticket", [("row", .text "A")]⟩⟩).result =
        .ok (ticket (some 7) "A") ∧
      (tickets.toKeyValue "Ticket" (ticket none "A")).result = .error (.idNotFound "Ticket") := by
  have hentity : tickets.schema.entity "Ticket" = .ok ticketDeclaration.entityType := by rfl
  have hid : ticketDeclaration.entityType.id? =
      some ⟨"Ticket", "number", "_id", ⟨"i64", .value .int64⟩, true, some serialNumber⟩ := by rfl
  have hnames : tickets.schema.flatNames "Ticket" = ["_id", "row"] := by cbv
  have hkeyed := (keyValue_keyedById tickets "Ticket").2 _ hentity (by simp [hnames])
    fun id h => ⟨.int64, by cases hid.symm.trans h; rfl⟩
  have hpair : (tickets.toKeyValue "Ticket" (ticket (some 7) "A")).result =
      .ok ⟨.integer 1007, ⟨"Ticket", [("_id", .integer 1007), ("row", .text "A")]⟩⟩ :=
    ((hkeyed _).pair_iff _).mpr ⟨by cbv, _, .int64, 7, hid, by cbv, by cbv⟩
  refine ⟨hpair, ?_, ?_⟩
  · have hread : tickets.ofKeyValue "Ticket" ⟨.integer 1007, ⟨"Ticket", [("row", .text "A")]⟩⟩ =
        tickets.read "Ticket" ⟨"Ticket", [("_id", .integer 1007), ("row", .text "A")]⟩ :=
      (hkeyed _).read_removed tickets _ _ rfl hpair hid
    rw [hread]
    cbv
  · exact (hkeyed _).missing_iff.mpr (.inr ⟨_, hid, .inl ⟨⟨"Ticket", [("row", .text "A")]⟩, by cbv, by cbv⟩⟩)

/-- Complains of a missing id, whatever it is to store. -/
def voided : ConverterRef where
  name := "Voided"
  fresh := {
    toRecord := fun _ => .error (.idNotFound "Voucher")
    toEntity := .ok }

def voucherDeclaration : Declaration where
  name := "Voucher"
  typeName := "Voucher"
  embeddable := false
  recordName := none
  members :=
    [(Member.optional "number" "Option<i64>" ⟨"i64", .value .int64⟩).asId,
      (Member.required "code" "String" ⟨"String", .value .text⟩).via voided]
  start := none
  order _ _ := .eq

/-- The converter of vouchers. -/
def vouchers : Converter := .ofSchema ⟨[voucherDeclaration.describe], fun _ => 0, by decide⟩

/-- A voucher with a number. -/
def voucher : Object := ⟨"Voucher", [("number", some (.scalar .int64 7)), ("code", some (.scalar .text "x"))]⟩

/-- A type without an id field may be refused for another reason, and an attribute converter may complain of a missing
id although the object has one. -/
theorem idNotFound_labelled_voucher :
    ((DeclaredSchema.labels.flatNames "Labelled").Nodup ∧
      (∀ m ∈ DeclaredSchema.labelledDeclaration.members, m.isId = false) ∧
      ((DeclaredSchema.labels.converter .empty).toKeyValue "Labelled" (DeclaredSchema.labelled "x")).result =
        .error (.invalidArgument (.repeatedName "Labelled" "note"))) ∧
    (vouchers.schema.flatNames "Voucher").Nodup ∧
      (∃ id, voucherDeclaration.entityType.id? = some id ∧ id.shape = .value .int64 ∧
        id.read voucher = some (.scalar .int64 7)) ∧
      vouchers.schema.entity "Voucher" = .ok voucherDeclaration.entityType ∧
      (vouchers.toKeyValue "Voucher" voucher).result = .error (.idNotFound "Voucher") := by
  have hlabelled : DeclaredSchema.labels.flatNames "Labelled" = ["text", "note"] := by cbv
  have hvoucher : vouchers.schema.flatNames "Voucher" = ["number", "code"] := by cbv
  refine ⟨⟨by simp [hlabelled], by decide, by cbv⟩, by simp [hvoucher], ⟨_, rfl, rfl, by cbv⟩, by rfl, by cbv⟩

end Converter
end EntityMapping
