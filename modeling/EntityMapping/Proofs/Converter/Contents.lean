import EntityMapping.Converter.Writing
import EntityMapping.Proofs.Record.Fields
import EntityMapping.Proofs.Schema.Names
import EntityMapping.Proofs.Traced
import EntityMapping.Schema.Declaration
import Mathlib

/-!
# What a record holds of its object

A record collects what the populated fields of its object contribute, embedded objects included. Fields of
different embedded objects may go by one name; then only the last of them stays.

* `Converter.write_eq_ok` — when a conversion to a record succeeds, and with what
* `Converter.exists_of_write` — a record as the collection of all contributions
* `Converter.keepsFields_iff` — no populated field is lost exactly when their names differ
-/

namespace EntityMapping
namespace Converter

variable {c : Converter} {type : TypeName} {o : Object} {f : FieldMapping}

/-! ## Writing -/

/-- The fields that a field of an object adds to the record. -/
def parts (c : Converter) (o : Object) (f : FieldMapping) : Conversion (List (String × Value)) :=
  c.writeField f o fun u p _ => c.write u p

theorem write_eq_ok {r : Record} :
    (c.write type o).result = .ok r ↔
      ∃ t fields, c.schema.entity type = .ok t ∧ o.type = type ∧
        List.Forall₂ (fun f part => (c.parts o f).result = .ok part) t.fields fields ∧
        r = .collect t.name fields.flatten := by
  rw [write]
  simp only [Traced.result_bind, entity, Traced.result_lift, bind_eq_ok]
  refine exists_congr fun t => ?_
  constructor
  · rintro ⟨ht, h⟩
    split at h
    · next hinstance =>
      simp only [Traced.result_bind, Traced.result_mapM, bind_eq_ok, mapM_eq_ok] at h
      obtain ⟨fields, hfields, hr⟩ := h
      injection hr with hr
      refine ⟨fields, ht, ?_, hfields, hr.symm⟩
      rw [← Schema.typeName_of_entity ht]
      simpa [EntityType.isInstance] using hinstance
    · simp at h
  · rintro ⟨fields, ht, htype, hfields, rfl⟩
    have hinstance : t.isInstance o = true := by
      simp [EntityType.isInstance, htype, Schema.typeName_of_entity ht]
    refine ⟨ht, ?_⟩
    rw [if_pos hinstance]
    simp only [Traced.result_bind, Traced.result_mapM, bind_eq_ok, mapM_eq_ok]
    exact ⟨fields, hfields, rfl⟩

/-- The value that a field of an object contributes to the record under its name. -/
inductive Contributes (c : Converter) (o : Object) (f : FieldMapping) : Value → Prop
  | value {t : ScalarType} {x : t.Carrier} {v : Value} (read : f.read o = some (.scalar t x))
      (stored : (c.storedValue f (t.encode x)).result = .ok v) : Contributes c o f v
  | entity {u : TypeName} {p : Object} {r : Record} (read : f.read o = some (.object p))
      (shape : f.shape = .entity u) (written : (c.write u p).result = .ok r) : Contributes c o f (.record r)
  | collection {kind : CollectionKind} {item : TypeName} {items : List Object} {t : EntityType}
      {rs : List Record} (read : f.read o = some (.collection kind item items))
      (itemType : c.schema.entity item = .ok t)
      (written : List.Forall₂ (fun p r => (c.write item p).result = .ok r) items rs) :
      Contributes c o f (.records rs)

/-- What contributes a value is there, and not embedded. -/
theorem Contributes.read_and_embeds? {v : Value} (h : c.Contributes o f v) :
    (f.read o).isSome = true ∧ f.embeds? = none := by
  cases h with
  | value read => exact ⟨by simp [read], FieldMapping.embeds?_of_read read (by simp)⟩
  | entity read shape => exact ⟨by simp [read], by simp [FieldMapping.embeds?, shape]⟩
  | collection read => exact ⟨by simp [read], FieldMapping.embeds?_of_read read (by simp)⟩

theorem parts_of_none (h : f.read o = none) : (c.parts o f).result = .ok [] := by
  unfold parts writeField
  split <;> simp_all

theorem parts_of_scalar {t : ScalarType} {x : t.Carrier} (h : f.read o = some (.scalar t x)) :
    (c.parts o f).result = (c.storedValue f (t.encode x)).result >>= fun v => .ok [(f.name, v)] := by
  unfold parts writeField
  split
  · next hread => simp [h] at hread
  · next hread =>
    rw [h] at hread
    cases hread
    exact Traced.result_bind _ _
  · next hread => simp [h] at hread
  · next hread => simp [h] at hread

theorem parts_of_object {p : Object} (h : f.read o = some (.object p)) :
    (c.parts o f).result =
      match f.shape with
      | .embedded u => (c.write u p).result >>= fun r => .ok r.fields
      | .entity u => (c.write u p).result >>= fun r => .ok [(f.name, .record r)]
      | _ => .ok [] := by
  unfold parts writeField
  split
  · next hread => simp [h] at hread
  · next hread => simp [h] at hread
  · next hread =>
    rw [h] at hread
    cases hread
    cases f.shape with
    | embedded | entity => exact Traced.result_bind _ _
    | value | collection => rfl
  · next hread => simp [h] at hread

theorem parts_of_collection {kind : CollectionKind} {item : TypeName} {items : List Object}
    (h : f.read o = some (.collection kind item items)) :
    (c.parts o f).result = do
      let _ ← c.schema.entity item
      let rs ← items.mapM fun p => (c.write item p).result
      return [(f.name, .records rs)] := by
  unfold parts writeField
  split
  · next hread => simp [h] at hread
  · next hread => simp [h] at hread
  · next hread => simp [h] at hread
  · next hread =>
    rw [h] at hread
    cases hread
    simp only [Traced.result_bind, Traced.result_mapM, List.mapM_subtype, List.unattach_attach]
    rfl

/-- All that a field can add to a record: nothing, the fields of an embedded object, or one field. -/
theorem parts_eq_ok {part : List (String × Value)} :
    (c.parts o f).result = .ok part ↔
      (f.read o = none ∧ part = []) ∨
        (∃ u p r, f.read o = some (.object p) ∧ f.shape = .embedded u ∧ (c.write u p).result = .ok r ∧
          part = r.fields) ∨
        ∃ v, c.Contributes o f v ∧ part = [(f.name, v)] := by
  constructor
  · intro h
    cases hread : f.read o with
    | none =>
      rw [parts_of_none hread] at h
      injection h with h
      exact .inl ⟨rfl, h.symm⟩
    | some x =>
      cases x with
      | scalar t x =>
        rw [parts_of_scalar hread, bind_eq_ok] at h
        obtain ⟨v, hv, hpart⟩ := h
        injection hpart with hpart
        exact .inr (.inr ⟨v, .value hread hv, hpart.symm⟩)
      | object p =>
        rw [parts_of_object hread] at h
        have hfits := FieldMapping.fits_of_read hread
        split at h
        · next u hshape =>
          obtain ⟨r, hr, hpart⟩ := bind_eq_ok.mp h
          injection hpart with hpart
          exact .inr (.inl ⟨u, p, r, rfl, hshape, hr, hpart.symm⟩)
        · next u hshape =>
          obtain ⟨r, hr, hpart⟩ := bind_eq_ok.mp h
          injection hpart with hpart
          exact .inr (.inr ⟨.record r, .entity hread hshape hr, hpart.symm⟩)
        -- an object fits no other shape
        · cases hshape : f.shape <;> simp_all [Datum.fits]
      | collection kind item items =>
        rw [parts_of_collection hread] at h
        simp only [bind_eq_ok, mapM_eq_ok] at h
        obtain ⟨t, ht, rs, hrs, hpart⟩ := h
        injection hpart with hpart
        exact .inr (.inr ⟨.records rs, .collection hread ht hrs, hpart.symm⟩)
  · rintro (⟨hread, rfl⟩ | ⟨u, p, r, hread, hshape, hr, rfl⟩ | ⟨v, hv, rfl⟩)
    · exact parts_of_none hread
    · rw [parts_of_object hread, hshape]
      exact bind_eq_ok.mpr ⟨r, hr, rfl⟩
    · cases hv with
      | value hread hv =>
        rw [parts_of_scalar hread]
        exact bind_eq_ok.mpr ⟨v, hv, rfl⟩
      | entity hread hshape hr =>
        rw [parts_of_object hread, hshape]
        exact bind_eq_ok.mpr ⟨_, hr, rfl⟩
      | collection hread ht hrs =>
        rw [parts_of_collection hread]
        simp only [bind_eq_ok, mapM_eq_ok]
        exact ⟨_, ht, _, hrs, rfl⟩

/-! ## What is collected -/

/-- Whether a field of a record is what a populated field contributes. -/
def IsContribution (c : Converter) (x : FieldMapping × Object) (k : String × Value) : Prop :=
  k.1 = x.1.name ∧ c.Contributes x.2 x.1 k.2

/-- What was put together for each field can be put together for all of them at once. -/
theorem exists_of_parts {fields : List FieldMapping} {batches : List (List (String × Value))}
    (h : List.Forall₂ (fun f part => ∃ ks, List.Forall₂ c.IsContribution (c.schema.populatedBy o f) ks ∧
      part = Fields.addAll [] ks) fields batches) (fs : List (String × Value)) :
    ∃ ks, List.Forall₂ c.IsContribution (fields.flatMap (c.schema.populatedBy o)) ks ∧
      Fields.addAll fs batches.flatten = Fields.addAll fs ks := by
  induction h generalizing fs with
  | nil => exact ⟨[], .nil, rfl⟩
  | cons hpart _ ih =>
    obtain ⟨ks, hks, rfl⟩ := hpart
    obtain ⟨rest, hrest, heq⟩ := ih (Fields.addAll fs ks)
    refine ⟨ks ++ rest, List.rel_append hks hrest, ?_⟩
    rw [List.flatten_cons, Fields.addAll_append, Fields.addAll_addAll (by simp), Fields.addAll_nil, heq,
      Fields.addAll_append]

/-- A record collects what the populated fields of its object contribute. -/
theorem exists_of_write {type : TypeName} {o : Object} {r : Record} (h : (c.write type o).result = .ok r) :
    ∃ ks, List.Forall₂ c.IsContribution (c.schema.populated o) ks ∧ r.fields = Fields.addAll [] ks := by
  obtain ⟨t, batches, ht, rfl, hbatches, rfl⟩ := write_eq_ok.mp h
  rw [Schema.populated_of_entity ht]
  refine exists_of_parts (hbatches.imp fun f part hpart => ?_) []
  unfold Schema.populatedBy
  rcases parts_eq_ok.mp hpart with ⟨hread, rfl⟩ | ⟨u, p, r, hread, hshape, hr, rfl⟩ | ⟨v, hv, rfl⟩
  · exact ⟨[], by simp [hread], rfl⟩
  -- an embedded object is smaller, and its record was put together in the same way
  · have := FieldMapping.sizeOf_lt_of_read hread
    simpa [hread, FieldMapping.embeds?_of_shape hshape] using exists_of_write hr
  · obtain ⟨hsome, hembeds⟩ := hv.read_and_embeds?
    obtain ⟨x, hread⟩ := Option.isSome_iff_exists.mp hsome
    refine ⟨[(f.name, v)], ?_, rfl⟩
    have hcontribution : List.Forall₂ c.IsContribution [(f, o)] [(f.name, v)] := .cons ⟨rfl, hv⟩ .nil
    cases x <;> simpa [hread, hembeds] using hcontribution
termination_by sizeOf o
decreasing_by
  simp only [Datum.object.sizeOf_spec] at this
  omega

theorem map_fst_of_contributions {xs : List (FieldMapping × Object)} {ks : List (String × Value)}
    (h : List.Forall₂ c.IsContribution xs ks) : ks.map Prod.fst = xs.map fun x => x.1.name := by
  induction h with
  | nil => rfl
  | cons hk _ ih => rw [List.map_cons, List.map_cons, ih, hk.1]

/-- What a record holds is what a populated field of its object contributes. -/
theorem exists_of_get? {type : TypeName} {o : Object} {r : Record} (h : (c.write type o).result = .ok r) {name : String}
    {v : Value} (hget : r.get? name = some v) :
    ∃ x ∈ c.schema.populated o, x.1.name = name ∧ c.Contributes x.2 x.1 v := by
  obtain ⟨ks, hks, hr⟩ := exists_of_write h
  rw [RecordOf.get?, hr, Fields.get?_addAll, Fields.get?, Option.or_none] at hget
  have hmem := List.mem_reverse.mp (Fields.mem_of_get? hget)
  obtain ⟨x, hx, hname, hv⟩ := exists_of_forall₂ (List.Forall₂.flip (R := flip c.IsContribution) hks) hmem
  exact ⟨x, hx, hname.symm, hv⟩

theorem get?_eq_none_iff {type : TypeName} {o : Object} {r : Record} (h : (c.write type o).result = .ok r)
    {name : String} : r.get? name = none ↔ name ∉ (c.schema.populated o).map fun x => x.1.name := by
  obtain ⟨ks, hks, hr⟩ := exists_of_write h
  rw [RecordOf.get?, hr, Fields.get?_eq_none_iff, Fields.mem_names_addAll, map_fst_of_contributions hks]
  simp

/-- Whether a record has a field of its own for each populated field of an object, with the value that the field
contributes. -/
def KeepsFields (c : Converter) (o : Object) (r : Record) : Prop :=
  r.size = (c.schema.populated o).length ∧
    ∀ x ∈ c.schema.populated o, ∃ v, c.Contributes x.2 x.1 v ∧ r.get? x.1.name = some v

theorem keepsFields_iff_nodup {r : Record} (h : (c.write type o).result = .ok r) :
    c.KeepsFields o r ↔ ((c.schema.populated o).map fun x => x.1.name).Nodup := by
  obtain ⟨ks, hks, hr⟩ := exists_of_write h
  have hnames := map_fst_of_contributions hks
  have hlength : (Fields.addAll [] ks).length = 0 + ks.length ↔ (([] ++ ks).map Prod.fst).Nodup :=
    Fields.length_addAll_iff (by simp)
  rw [List.nil_append, hnames, ← hr, Nat.zero_add, ← hks.length_eq] at hlength
  constructor
  · exact fun hkeeps => hlength.mp hkeeps.1
  · intro hnodup
    refine ⟨hlength.mpr hnodup, fun x hx => ?_⟩
    obtain ⟨k, hk, hname, hv⟩ := exists_of_forall₂ hks hx
    refine ⟨k.2, hv, ?_⟩
    rw [← hnames] at hnodup
    rw [RecordOf.get?, hr, Fields.addAll_of_nodup hnodup, List.nil_append, ← hname]
    exact Fields.get?_of_mem hnodup hk

/-- The names of the populated fields differ if the flattened names of the type do. -/
theorem nodup_populated {r : Record} (h : (c.write type o).result = .ok r)
    (hnames : (c.schema.flatNames type).Nodup) : ((c.schema.populated o).map fun x => x.1.name).Nodup := by
  obtain ⟨-, -, -, rfl, -⟩ := write_eq_ok.mp h
  exact hnames.sublist (c.schema.populated_sublist o)

/-! ## What a record says of an object -/

/-- Whether a record says of the names of an object's type what the object has to say: under the names of its
populated fields what these contribute, and nothing under the others. -/
structure Reflects (c : Converter) (r : Record) (o : Object) : Prop where
  populated : ∀ x ∈ c.schema.populated o, ∃ v, c.Contributes x.2 x.1 v ∧ r.get? x.1.name = some v
  empty : ∀ name ∈ c.schema.flatNames o.type, name ∉ (c.schema.populated o).map (fun x => x.1.name) →
    r.get? name = none

/-- If the names differ, the record of an object reflects it. -/
theorem reflects_of_write {r : Record} (h : (c.write type o).result = .ok r)
    (hnames : (c.schema.flatNames type).Nodup) : c.Reflects r o where
  populated := ((keepsFields_iff_nodup h).mpr (nodup_populated h hnames)).2
  empty _ _ hname := (get?_eq_none_iff h).mpr hname

section Reflects

variable {t : EntityType} {r : Record}

/-- A field that holds something else than an embedded object has its value in the record. -/
theorem Reflects.exists_of_read {x : Datum} (h : c.Reflects r o) (ht : c.schema.entity o.type = .ok t)
    (hf : f ∈ t.fields) (hread : f.read o = some x) (hembeds : f.embeds? = none) :
    ∃ v, c.Contributes o f v ∧ r.get? f.name = some v := by
  refine h.populated (f, o) ?_
  rw [Schema.populated_of_entity ht]
  refine List.mem_flatMap.mpr ⟨f, hf, ?_⟩
  cases x <;> simp [Schema.populatedBy, hread, hembeds]

/-- A name that belongs to one field only is one of the record's if this field stores something under it. -/
theorem not_mem_populated (ht : c.schema.entity o.type = .ok t) {name : String}
    (halone : ∀ g ∈ t.fields, name ∈ c.schema.namesOf g → g = f)
    (h : name ∉ (c.schema.populatedBy o f).map fun x => x.1.name) :
    name ∉ (c.schema.populated o).map fun x => x.1.name := by
  rw [Schema.populated_of_entity ht, List.map_flatMap]
  intro hmem
  obtain ⟨g, hg, hmem⟩ := List.mem_flatMap.mp hmem
  cases halone g hg ((c.schema.populatedBy_sublist o g).subset hmem)
  exact h hmem

/-- A field that has its name for itself, and holds something else than an embedded object, has its value in the
record. -/
theorem exists_of_read {x : Datum} (h : (c.write type o).result = .ok r) (ht : c.schema.entity o.type = .ok t)
    (hf : f ∈ t.fields) (halone : ∀ g ∈ t.fields, f.name ∈ c.schema.namesOf g → g = f) (hread : f.read o = some x)
    (hembeds : f.embeds? = none) : ∃ v, c.Contributes o f v ∧ r.get? f.name = some v := by
  have hown : c.schema.populatedBy o f = [(f, o)] := by
    cases x <;> simp [Schema.populatedBy, hread, hembeds]
  have hpopulated : (f, o) ∈ c.schema.populated o := by
    rw [Schema.populated_of_entity ht]
    exact List.mem_flatMap.mpr ⟨f, hf, by simp [hown]⟩
  cases hget : r.get? f.name with
  | none => exact absurd (List.mem_map_of_mem hpopulated) ((get?_eq_none_iff h).mp hget)
  | some v =>
    obtain ⟨x, hx, hname, hv⟩ := exists_of_get? h hget
    rw [Schema.populated_of_entity ht] at hx
    obtain ⟨g, hg, hx⟩ := List.mem_flatMap.mp hx
    cases halone g hg ((c.schema.populatedBy_sublist o g).subset (hname ▸ List.mem_map_of_mem hx))
    rw [hown, List.mem_singleton] at hx
    cases hx
    exact ⟨v, hv, rfl⟩

/-- A field with a plain value that has its name for itself holds nothing, and neither does the record, or the record
has the stored value. -/
theorem get?_of_value {st : ScalarType} (h : (c.write type o).result = .ok r) (ht : c.schema.entity o.type = .ok t)
    (hf : f ∈ t.fields) (halone : ∀ g ∈ t.fields, f.name ∈ c.schema.namesOf g → g = f)
    (hshape : f.shape = .value st) :
    (f.read o = none ∧ r.get? f.name = none) ∨
      ∃ x v, f.read o = some (.scalar st x) ∧ (c.storedValue f (st.encode x)).result = .ok v ∧
        r.get? f.name = some v := by
  have hembeds : f.embeds? = none := by simp [FieldMapping.embeds?, hshape]
  cases hread : f.read o with
  | none =>
    have hnot := not_mem_populated ht halone (by simp [Schema.populatedBy, hread])
    exact .inl ⟨rfl, (get?_eq_none_iff h).mpr hnot⟩
  | some y =>
    obtain ⟨v, hv, hget⟩ := exists_of_read h ht hf halone hread hembeds
    have hfits := FieldMapping.fits_of_read hread
    rw [hshape] at hfits
    cases y with
    | object | collection => cases hfits
    | scalar u x =>
      obtain rfl : u = st := of_decide_eq_true hfits
      cases hv with
      | value hscalar hstored =>
        cases hread.symm.trans hscalar
        exact .inr ⟨x, v, rfl, hstored, hget⟩
      | entity hobject => cases hread.symm.trans hobject
      | collection hcollection => cases hread.symm.trans hcollection

/-- Of the names of a field, the record has none that the field stores nothing under. -/
theorem Reflects.get?_of_not_mem_populatedBy (h : c.Reflects r o) (ht : c.schema.entity o.type = .ok t)
    (hnames : (c.schema.flatNames o.type).Nodup) (hf : f ∈ t.fields) {name : String}
    (hname : name ∈ c.schema.namesOf f) (hnot : name ∉ (c.schema.populatedBy o f).map fun x => x.1.name) :
    r.get? name = none := by
  have halone : ∀ g ∈ t.fields, name ∈ c.schema.namesOf g → g = f :=
    fun _ hg => Schema.eq_of_mem_namesOf ht hnames hf hg hname
  refine h.empty name ?_ (not_mem_populated ht halone hnot)
  rw [Schema.flatNames_of_entity ht]
  exact List.mem_flatMap.mpr ⟨f, hf, hname⟩

/-- Of a field that holds nothing, the record has none of the names. -/
theorem Reflects.get?_of_none (h : c.Reflects r o) (ht : c.schema.entity o.type = .ok t)
    (hnames : (c.schema.flatNames o.type).Nodup) (hf : f ∈ t.fields) (hread : f.read o = none) {name : String}
    (hname : name ∈ c.schema.namesOf f) : r.get? name = none :=
  h.get?_of_not_mem_populatedBy ht hnames hf hname (by simp [Schema.populatedBy, hread])

/-- A record that reflects an object reflects the embedded objects in it. -/
theorem Reflects.embedded {p : Object} (h : c.Reflects r o) (ht : c.schema.entity o.type = .ok t)
    (hnames : (c.schema.flatNames o.type).Nodup) (hf : f ∈ t.fields) (hread : f.read o = some (.object p))
    (hembeds : f.embeds? = some p.type) : c.Reflects r p := by
  have hpopulated : c.schema.populatedBy o f = c.schema.populated p := by
    simp [Schema.populatedBy, hread, hembeds]
  have hnamesOf : c.schema.namesOf f = c.schema.flatNames p.type := by
    simp [Schema.namesOf, hembeds]
  constructor
  · intro x hx
    refine h.populated x ?_
    rw [Schema.populated_of_entity ht]
    exact List.mem_flatMap.mpr ⟨f, hf, hpopulated ▸ hx⟩
  · intro name hname hnot
    rw [← hnamesOf] at hname
    rw [← hpopulated] at hnot
    exact h.get?_of_not_mem_populatedBy ht hnames hf hname hnot

end Reflects

/-! ## Fields that are lost -/

/-- **A record keeps all populated fields of its object exactly when their names differ, which they do if the
flattened names of the type differ.** -/
theorem keepsFields_iff {r : Record} (h : (c.write type o).result = .ok r) :
    (c.KeepsFields o r ↔ ((c.schema.populated o).map fun x => x.1.name).Nodup) ∧
      ((c.schema.flatNames type).Nodup → c.KeepsFields o r) :=
  ⟨keepsFields_iff_nodup h, fun hnames => (keepsFields_iff_nodup h).mpr (nodup_populated h hnames)⟩

/-- Something to live in. -/
def houseDeclaration : Declaration where
  name := "House"
  typeName := "House"
  embeddable := true
  recordName := none
  members := [.required "street" "String" ⟨"String", .value .text⟩]
  start := none
  order _ _ := .eq

/-- A type that embeds another one twice. -/
def tenantDeclaration : Declaration where
  name := "Tenant"
  typeName := "Tenant"
  embeddable := false
  recordName := none
  members :=
    [.optional "home" "Option<House>" ⟨"House", .embedded "House"⟩,
      .optional "work" "Option<House>" ⟨"House", .embedded "House"⟩]
  start := none
  order _ _ := .eq

/-- The converter of tenants. -/
def tenants : Converter := .ofSchema
  ⟨[houseDeclaration.describe, tenantDeclaration.describe], fun u => if u = "Tenant" then 1 else 0, by decide⟩

/-- A house in a street. -/
def house (street : String) : Object := ⟨"House", [("street", some (.scalar .text street))]⟩

/-- A tenant with a home, and with a place to work at if there is one. -/
def tenant (work : Option Object) : Object :=
  ⟨"Tenant", [("home", some (.object (house "Baker"))), ("work", work.map .object)]⟩

/-- A tenant whose record is complete although the flattened names of its type are not different. -/
theorem keepsFields_tenant :
    (tenants.write "Tenant" (tenant none)).result = .ok ⟨"Tenant", [("street", .text "Baker")]⟩ ∧
      ¬ (tenants.schema.flatNames "Tenant").Nodup ∧
      tenants.KeepsFields (tenant none) ⟨"Tenant", [("street", .text "Baker")]⟩ := by
  have hwrite : (tenants.write "Tenant" (tenant none)).result = .ok ⟨"Tenant", [("street", .text "Baker")]⟩ := by
    cbv
  have hnames : tenants.schema.flatNames "Tenant" = ["street", "street"] := by cbv
  have hpopulated : (tenants.schema.populated (tenant none)).map (fun x => x.1.name) = ["street"] := by cbv
  refine ⟨hwrite, by simp [hnames], (keepsFields_iff hwrite).1.mpr ?_⟩
  simp [hpopulated]

/-- The street of one house replaces that of the other one. -/
theorem write_loses_street :
    tenants.schema.Accepts "Tenant" ∧
      (tenants.write "Tenant" (tenant (some (house "Main")))).result = .ok ⟨"Tenant", [("street", .text "Main")]⟩ ∧
      ¬ tenants.KeepsFields (tenant (some (house "Main"))) ⟨"Tenant", [("street", .text "Main")]⟩ := by
  refine ⟨Schema.accepts_of_forall (by decide) (by decide) (by decide), by cbv, fun hkeeps => ?_⟩
  have hpopulated : (tenants.schema.populated (tenant (some (house "Main")))).length = 2 := by cbv
  have hsize := hkeeps.1
  rw [hpopulated] at hsize
  simp [RecordOf.size] at hsize

end Converter
end EntityMapping
