import EntityMapping.Proofs.Converter.RoundTrip

/-!
# Flattened objects

The record of an object lists what its fields hold, one after the other. An embedded object has its fields there where
its member is; any other object has a record of its own, and so has each object of a collection. Adding fields to a
record might replace others, but if the flattened names of the types differ, this never happens.

* `Schema.flat` — the record of an object, put together by concatenation
* `Schema.leaves` — the plain values in an object and in all objects inside, from left to right
* `Converter.write_eq_flat` — this is the record that is written
* `Converter.write_eq_error_iff` — unless there is a plain value that cannot be stored; the first of them is to blame
-/

namespace EntityMapping

/-- The objects in a member are smaller than the object that has it. -/
theorem FieldMapping.sizeOf_lt_of_mem_objects {f : FieldMapping} {o p : Object} {x : Datum} (h : f.read o = some x)
    (hp : p ∈ x.objects) : sizeOf p < sizeOf o := by
  have hsize := sizeOf_lt_of_read h
  cases x with
  | scalar => cases hp
  | object q =>
    cases List.mem_singleton.mp hp
    simp only [Datum.object.sizeOf_spec] at hsize
    omega
  | collection kind item items =>
    have hitem := List.sizeOf_lt_of_mem (show p ∈ items from hp)
    simp only [Datum.collection.sizeOf_spec] at hsize
    omega

namespace Schema

/-! ## Records by concatenation -/

/-- The record of an object: the values of its plain fields, as `store` makes them, the fields of embedded objects, and
the records of the other objects inside, in the order of the fields. What is absent adds nothing. -/
def flat (S : Schema) (store : FieldMapping → Value → Value) (o : Object) : Record :=
  match S.find? o.type with
  | none => .empty o.type
  | some d => ⟨d.name, d.fields.flatMap fun f =>
    match _h : f.read o with
    | none => []
    | some (.scalar t x) => [(f.name, store f (t.encode x))]
    | some (.object p) => if f.embeds?.isSome then (flat S store p).fields else [(f.name, .record (flat S store p))]
    | some (.collection _ _ items) => [(f.name, .records (items.attach.map fun ⟨p, _hp⟩ => flat S store p))]⟩
termination_by sizeOf o
decreasing_by
  · exact FieldMapping.sizeOf_lt_of_mem_objects _h (List.mem_singleton_self p)
  · exact FieldMapping.sizeOf_lt_of_mem_objects _h (List.mem_singleton_self p)
  · exact FieldMapping.sizeOf_lt_of_mem_objects _h _hp

/-- What a field of an object adds to the record. -/
def flatField (S : Schema) (store : FieldMapping → Value → Value) (o : Object) (f : FieldMapping) :
    List (String × Value) :=
  match f.read o with
  | none => []
  | some (.scalar t x) => [(f.name, store f (t.encode x))]
  | some (.object p) => if f.embeds?.isSome then (S.flat store p).fields else [(f.name, .record (S.flat store p))]
  | some (.collection _ _ items) => [(f.name, .records (items.map (S.flat store)))]

/-- The plain values in an object and in all objects inside, each with its field, from left to right. -/
def leaves (S : Schema) (o : Object) : List (FieldMapping × Value) :=
  match S.find? o.type with
  | none => []
  | some d => d.fields.flatMap fun f =>
    match _h : f.read o with
    | none => []
    | some (.scalar t x) => [(f, t.encode x)]
    | some (.object p) => leaves S p
    | some (.collection _ _ items) => items.attach.flatMap fun ⟨p, _hp⟩ => leaves S p
termination_by sizeOf o
decreasing_by
  · exact FieldMapping.sizeOf_lt_of_mem_objects _h (List.mem_singleton_self p)
  · exact FieldMapping.sizeOf_lt_of_mem_objects _h _hp

/-- The plain values in a field of an object. -/
def leavesOf (S : Schema) (o : Object) (f : FieldMapping) : List (FieldMapping × Value) :=
  match f.read o with
  | none => []
  | some (.scalar t x) => [(f, t.encode x)]
  | some x => x.objects.flatMap S.leaves

variable {S : Schema} {store : FieldMapping → Value → Value} {o : Object} {d : TypeDescription} {f : FieldMapping}

theorem flat_of_find? (h : S.find? o.type = some d) :
    S.flat store o = ⟨d.name, d.fields.flatMap (S.flatField store o)⟩ := by
  rw [flat, h]
  dsimp only
  congr 1
  refine List.flatMap_congr fun f _ => ?_
  unfold flatField
  split
  · next h => rw [h]
  · next h => rw [h]
  · next h => rw [h]
  · next h => simp only [h, List.map_subtype, List.unattach_attach]

/-- The plain values in the objects of a field are those of the field. -/
theorem mem_leavesOf {x : Datum} {p : Object} {y : FieldMapping × Value} (hread : f.read o = some x)
    (hp : p ∈ x.objects) (hy : y ∈ S.leaves p) : y ∈ S.leavesOf o f := by
  unfold leavesOf
  rw [hread]
  cases x with
  | scalar => cases hp
  | object | collection => exact List.mem_flatMap.mpr ⟨p, hp, hy⟩

theorem leaves_of_find? (h : S.find? o.type = some d) : S.leaves o = d.fields.flatMap (S.leavesOf o) := by
  rw [leaves, h]
  refine List.flatMap_congr fun f _ => ?_
  unfold leavesOf
  split
  · next h => rw [h]
  · next h => rw [h]
  · next h => simp [h, Datum.objects]
  · next h => simp only [h, Datum.objects, List.flatMap_subtype, List.unattach_attach]

/-- The names in the record of an object are those of its populated fields. -/
theorem names_flat (S : Schema) (store : FieldMapping → Value → Value) (o : Object) :
    (S.flat store o).names = (S.populated o).map fun x => x.1.name := by
  cases h : S.find? o.type with
  | none =>
    rw [flat, populated, h]
    rfl
  | some d =>
    rw [flat_of_find? h, populated_of_find? h, RecordOf.names, List.map_flatMap, List.map_flatMap]
    refine List.flatMap_congr fun f _ => ?_
    unfold flatField populatedBy
    cases hread : f.read o with
    | none => rfl
    | some x =>
      cases x with
      | scalar t x => rfl
      | collection kind item items => rfl
      | object p =>
        have hsize := FieldMapping.sizeOf_lt_of_mem_objects hread (List.mem_singleton_self p)
        dsimp only
        split
        · exact names_flat S store p
        · rfl
termination_by sizeOf o

/-- If the flattened names of its type differ, the names in the record of an object do. -/
theorem nodup_names_flat (hnames : (S.flatNames o.type).Nodup) (store : FieldMapping → Value → Value) :
    (S.flat store o).names.Nodup := by
  rw [names_flat]
  exact hnames.sublist (S.populated_sublist o)

/-! ## Objects of a schema -/

/-- Whether all types of a schema have consistent descriptions, refer to types of the schema only, and have different
flattened names. -/
structure Unambiguous (S : Schema) : Prop where
  consistent : ∀ d ∈ S.types, d.build.isOk = true
  targets : ∀ d ∈ S.types, ∀ f ∈ d.fields, ∀ u ∈ f.shape.target?, (S.find? u).isSome = true
  names : ∀ d ∈ S.types, (S.flatNames d.typeName).Nodup

/-- Whether an object is of a type of a schema, and its collections hold objects of their item types. -/
structure Describes (S : Schema) (o : Object) : Prop where
  type : (S.find? o.type).isSome = true
  items : ∀ d, S.find? o.type = some d → ∀ f ∈ d.fields, ∀ kind item items,
    f.read o = some (.collection kind item items) → ∀ p ∈ items, p.type = item

/-- A described object has an entity type, with the name and the fields of the description. -/
theorem Unambiguous.exists_entity (hS : S.Unambiguous) {type : TypeName} (h : (S.find? type).isSome = true) :
    ∃ d t, S.find? type = some d ∧ S.entity type = .ok t ∧ t.name = d.name ∧ t.fields = d.fields := by
  obtain ⟨d, hd⟩ := Option.isSome_iff_exists.mp h
  obtain ⟨t, ht⟩ := exists_of_isOk (hS.consistent d (List.mem_of_find?_eq_some hd))
  have heq := (TypeDescription.eq_of_build ht).2
  exact ⟨d, t, hd, (entity_of_find? hd).trans ht, by rw [heq], by rw [heq]⟩

theorem Unambiguous.nodup_flatNames (hS : S.Unambiguous) {type : TypeName} (h : (S.find? type).isSome = true) :
    (S.flatNames type).Nodup := by
  obtain ⟨d, hd⟩ := Option.isSome_iff_exists.mp h
  rw [← typeName_of_find? hd]
  exact hS.names d (List.mem_of_find?_eq_some hd)

end Schema

namespace Converter

variable {c : Converter} {store : FieldMapping → Value → Value} {o : Object} {d : TypeDescription} {f : FieldMapping}
  {e : MapError}

/-! ## Writing field by field -/

/-- The fields of an object are written one after the other. -/
theorem result_write {t : EntityType} (ht : c.schema.entity o.type = .ok t) :
    (c.write o.type o).result = (t.fields.mapM fun f => (c.parts o f).result) >>= fun batches =>
      .ok (.collect t.name batches.flatten) := by
  have hinstance : t.isInstance o = true := by simp [EntityType.isInstance, Schema.typeName_of_entity ht]
  rw [write]
  simp only [Traced.result_bind, entity, Traced.result_lift, ht]
  show (if t.isInstance o then _ else _ : Conversion Record).result = _
  rw [if_pos hinstance, Traced.result_bind, Traced.result_mapM]
  rfl

/-- The objects of a collection are written one after the other. -/
theorem parts_of_items (hS : c.schema.Unambiguous) (hd : c.schema.find? o.type = some d) (hf : f ∈ d.fields)
    (ho : c.schema.Describes o) {kind : CollectionKind} {item : TypeName} {items : List Object}
    (hread : f.read o = some (.collection kind item items)) :
    (c.parts o f).result =
      (items.mapM fun p => (c.write p.type p).result) >>= fun rs => .ok [(f.name, .records rs)] := by
  have hshape : f.shape = .collection kind item := by
    have hfits := FieldMapping.fits_of_read hread
    cases hshape : f.shape <;> simp_all [Datum.fits]
  have htarget : item ∈ f.shape.target? := by
    rw [hshape]
    rfl
  obtain ⟨-, t, -, ht, -⟩ := hS.exists_entity (hS.targets d (List.mem_of_find?_eq_some hd) f hf item htarget)
  have hitems : (items.mapM fun p => (c.write item p).result) = items.mapM fun p => (c.write p.type p).result :=
    mapM_congr fun p hp => by rw [ho.items d hd f hf kind item items hread p hp]
  rw [parts_of_collection hread, ht, ← hitems]
  rfl

/-- What an object inside adds to the record: its fields if it is embedded, and otherwise a record of its own. -/
theorem parts_of_inside {p : Object} (hread : f.read o = some (.object p)) :
    (c.parts o f).result = (c.write p.type p).result >>= fun r =>
      .ok (if f.embeds?.isSome then r.fields else [(f.name, .record r)]) := by
  have hfits := FieldMapping.fits_of_read hread
  rw [parts_of_object hread]
  cases hshape : f.shape with
  | value | collection => simp [hshape, Datum.fits] at hfits
  | embedded u =>
    obtain rfl : p.type = u := by simpa [hshape, Datum.fits] using hfits
    simp [FieldMapping.embeds?_of_shape hshape]
  | entity u =>
    obtain rfl : p.type = u := by simpa [hshape, Datum.fits] using hfits
    simp [FieldMapping.embeds?, hshape]

/-- A field adds what it adds to the record by concatenation, if the plain values and the objects inside do. -/
theorem parts_eq_flatField (hS : c.schema.Unambiguous) (hd : c.schema.find? o.type = some d) (hf : f ∈ d.fields)
    (ho : c.schema.Describes o)
    (hstore : ∀ x ∈ c.schema.leavesOf o f, (c.storedValue x.1 x.2).result = .ok (store x.1 x.2))
    (hinside : ∀ x, f.read o = some x → ∀ p ∈ x.objects, (c.write p.type p).result = .ok (c.schema.flat store p)) :
    (c.parts o f).result = .ok (c.schema.flatField store o f) := by
  unfold Schema.flatField
  cases hread : f.read o with
  | none => exact parts_of_none hread
  | some x =>
    cases x with
    | scalar t x =>
      rw [parts_of_scalar hread, hstore (f, t.encode x) (by simp [Schema.leavesOf, hread])]
      rfl
    | object p =>
      rw [parts_of_inside hread, hinside _ hread p (List.mem_singleton_self p)]
      rfl
    | collection kind item items =>
      have hitems : (items.mapM fun p => (c.write p.type p).result) = .ok (items.map (c.schema.flat store)) := by
        rw [mapM_eq_ok, List.forall₂_map_right_iff]
        exact List.forall₂_same.mpr fun p hp => hinside _ hread p hp
      rw [parts_of_items hS hd hf ho hread, hitems]
      rfl

/-- A field fails with the first plain value in it that cannot be stored, if the objects inside do. -/
theorem parts_eq_error_iff (hS : c.schema.Unambiguous) (hd : c.schema.find? o.type = some d) (hf : f ∈ d.fields)
    (ho : c.schema.Describes o)
    (hinside : ∀ x, f.read o = some x → ∀ p ∈ x.objects, ∀ e, (c.write p.type p).result = .error e ↔
      ((c.schema.leaves p).mapM fun y => (c.storedValue y.1 y.2).result) = .error e) :
    (c.parts o f).result = .error e ↔
      ((c.schema.leavesOf o f).mapM fun y => (c.storedValue y.1 y.2).result) = .error e := by
  unfold Schema.leavesOf
  cases hread : f.read o with
  | none =>
    rw [parts_of_none hread]
    exact iff_of_false nofun nofun
  | some x =>
    cases x with
    | scalar t x =>
      rw [parts_of_scalar hread, bind_ok_eq_error_iff, mapM_cons_eq_error_iff]
      exact (or_iff_left fun h => nomatch h.2).symm
    | object p =>
      rw [parts_of_inside hread, bind_ok_eq_error_iff, hinside _ hread p (List.mem_singleton_self p)]
      simp [Datum.objects]
    | collection kind item items =>
      rw [parts_of_items hS hd hf ho hread, bind_ok_eq_error_iff]
      exact (mapM_eq_error_congr fun p hp => hinside _ hread p hp).trans mapM_flatMap_eq_error_iff.symm

/-! ## Writing objects -/

/-- An object is written if the plain values in it can be stored, and so are the objects inside. -/
theorem throughout_flat (hS : c.schema.Unambiguous) (ho : c.schema.Throughout c.schema.Describes o)
    (hstore : ∀ x ∈ c.schema.leaves o, (c.storedValue x.1 x.2).result = .ok (store x.1 x.2)) :
    c.schema.Throughout (fun p => (c.write p.type p).result = .ok (c.schema.flat store p) ∧
      (c.schema.flat store p).names.Nodup) o := by
  induction ho with
  | @intro o here inside ih =>
    obtain ⟨d, t, hd, ht, hname, hfields⟩ := hS.exists_entity here.type
    rw [Schema.leaves_of_find? hd] at hstore
    have hleaves : ∀ f ∈ d.fields, ∀ x ∈ c.schema.leavesOf o f,
        (c.storedValue x.1 x.2).result = .ok (store x.1 x.2) :=
      fun f hf x hx => hstore x (List.mem_flatMap.mpr ⟨f, hf, hx⟩)
    have hinside : ∀ f ∈ d.fields, ∀ x, f.read o = some x → ∀ p ∈ x.objects,
        c.schema.Throughout (fun p => (c.write p.type p).result = .ok (c.schema.flat store p) ∧
          (c.schema.flat store p).names.Nodup) p :=
      fun f hf x hx p hp => ih d hd f hf x hx p hp fun y hy => hleaves f hf y (Schema.mem_leavesOf hx hp hy)
    have hnames := Schema.nodup_names_flat (hS.nodup_flatNames here.type) store
    have hparts : (d.fields.mapM fun f => (c.parts o f).result) = .ok (d.fields.map (c.schema.flatField store o)) := by
      rw [mapM_eq_ok, List.forall₂_map_right_iff]
      refine List.forall₂_same.mpr fun f hf => ?_
      exact parts_eq_flatField hS hd hf here (hleaves f hf) fun x hx p hp => (hinside f hf x hx p hp).holds.1
    refine .intro ⟨?_, hnames⟩ fun d' hd' => ?_
    · rw [Schema.flat_of_find? hd] at hnames ⊢
      rw [result_write ht, hfields, hparts, hname, List.flatMap_def] at *
      -- no name comes twice, so no field replaces another one
      show Except.ok (⟨d.name, Fields.addAll [] _⟩ : Record) = _
      rw [Fields.addAll_of_nodup (by exact hnames), List.nil_append]
    · cases hd.symm.trans hd'
      exact hinside

/-- An object is not written if a plain value in it cannot be stored; the first of them is to blame. -/
theorem write_eq_error_iff (hS : c.schema.Unambiguous) (ho : c.schema.Throughout c.schema.Describes o) :
    (c.write o.type o).result = .error e ↔
      ((c.schema.leaves o).mapM fun y => (c.storedValue y.1 y.2).result) = .error e := by
  induction ho generalizing e with
  | @intro o here inside ih =>
    obtain ⟨d, t, hd, ht, -, hfields⟩ := hS.exists_entity here.type
    rw [result_write ht, bind_ok_eq_error_iff, hfields, Schema.leaves_of_find? hd, mapM_flatMap_eq_error_iff]
    refine mapM_eq_error_congr fun f hf e => ?_
    exact parts_eq_error_iff hS hd hf here fun x hx p hp e => ih d hd f hf x hx p hp

/-- **The record of an object is put together by concatenation, and so are the records of all objects inside, none of
which has a name twice. If there are plain values that cannot be stored, the first of them is to blame.** -/
theorem write_eq_flat (c : Converter) (o : Object) (hS : c.schema.Unambiguous)
    (ho : c.schema.Throughout c.schema.Describes o) :
    (∀ store : FieldMapping → Value → Value,
      (∀ x ∈ c.schema.leaves o, (c.storedValue x.1 x.2).result = .ok (store x.1 x.2)) →
        c.schema.Throughout (fun p => (c.write p.type p).result = .ok (c.schema.flat store p) ∧
          (c.schema.flat store p).names.Nodup) o) ∧
    ∀ e, (c.write o.type o).result = .error e ↔
      ∃ before x after, c.schema.leaves o = before ++ x :: after ∧
        (∀ y ∈ before, (c.storedValue y.1 y.2).result.isOk = true) ∧ (c.storedValue x.1 x.2).result = .error e :=
  ⟨fun _ hstore => throughout_flat hS ho hstore, fun _ => (write_eq_error_iff hS ho).trans mapM_eq_error_iff⟩

end Converter

/-! ## Pages and labels -/

namespace DeclaredSchema

variable {D : DeclaredSchema} {o : Object}

theorem unambiguous (hD : D.Consistent) (hnames : D.DistinctNames) : D.Unambiguous where
  consistent t ht := by
    obtain ⟨d, hd, rfl⟩ := List.mem_map.mp (D.types_eq ▸ ht)
    exact hD d hd
  targets t ht f hf u hu := by
    obtain ⟨d, hd, rfl⟩ := List.mem_map.mp (D.types_eq ▸ ht)
    obtain ⟨m, hm, rfl⟩ := List.mem_map.mp hf
    obtain ⟨d', hd', rfl⟩ := D.exists_target d hd m hm u hu
    rw [Schema.find?, List.find?_isSome]
    exact ⟨d'.describe, D.types_eq ▸ List.mem_map_of_mem hd', by simp [Declaration.describe]⟩
  names t ht := by
    obtain ⟨d, hd, rfl⟩ := List.mem_map.mp (D.types_eq ▸ ht)
    exact hnames d hd

theorem IsInstance.describes (ho : D.IsInstance o) : D.Describes o := by
  obtain ⟨d, hd, hinstance, hproper⟩ := ho
  refine ⟨by simp [find?_of_declaration? hd], fun t ht f hf kind item items hread p hp => ?_⟩
  cases (find?_of_declaration? hd).symm.trans ht
  obtain ⟨m, hm, rfl⟩ := List.mem_map.mp hf
  rw [hinstance.read_field hm] at hread
  exact hproper m hm _ hread p hp

/-- How the plain values of a page are stored. -/
def storePage (f : FieldMapping) (v : Value) : Value := if f.member = "done" then .text "yes" else v

/-- The text of a note is among the fields of its page, and the links of a page are records of their own. -/
theorem write_eq_flat_page :
    pages.Unambiguous ∧
      pages.Throughout pages.Describes (page "a" (some (note (some "x"))) [page "b" none []]) ∧
      ((pages.converter .empty).write "Page" (page "a" (some (note (some "x"))) [page "b" none []])).result =
        .ok ⟨"pages", [("title", .text "a"), ("done", .text "yes"), ("text", .text "x"),
          ("links", .records [⟨"pages", [("title", .text "b"), ("done", .text "yes"), ("links", .records [])]⟩])]⟩ := by
  have hdescribes : pages.Throughout pages.Describes (page "a" (some (note (some "x"))) [page "b" none []]) := by
    refine (throughout_page "a" (some (some "x")) ?_).imp fun _ h => h.isInstance.describes
    exact List.forall_mem_singleton.mpr ⟨rfl, throughout_page "b" none (by simp)⟩
  have hunambiguous := unambiguous consistent_pages distinctNames_pages
  refine ⟨hunambiguous, hdescribes, ?_⟩
  refine ((Converter.write_eq_flat (pages.converter .empty) _ hunambiguous hdescribes).1 storePage ?_).holds.1.trans ?_
  · have hleaves : pages.leaves (page "a" (some (note (some "x"))) [page "b" none []]) =
        [((Member.required "title" "String" ⟨"String", .value .text⟩).field "Page", .text "a"),
          (((Member.required "done" "bool" ⟨"bool", .value .boolean⟩).via yesNo).field "Page", .boolean true),
          ((Member.optional "text" "Option<String>" ⟨"String", .value .text⟩).field "Note", .text "x"),
          ((Member.required "title" "String" ⟨"String", .value .text⟩).field "Page", .text "b"),
          (((Member.required "done" "bool" ⟨"bool", .value .boolean⟩).via yesNo).field "Page", .boolean true)] := by
      cbv
    show ∀ x ∈ pages.leaves (page "a" (some (note (some "x"))) [page "b" none []]), _
    rw [hleaves]
    simp only [List.forall_mem_cons]
    exact ⟨rfl, rfl, rfl, rfl, rfl, by simp⟩
  · exact congrArg Except.ok (by cbv)

/-- A type may be refused although its flattened names differ: then no object of it is written. -/
theorem write_refuses_distinct_names :
    (∀ d ∈ labels.types, (labels.flatNames d.typeName).Nodup) ∧
      labels.Throughout labels.Describes (labelled "x") ∧
      (∀ x ∈ labels.leaves (labelled "x"), ((labels.converter .empty).storedValue x.1 x.2).result = .ok x.2) ∧
      labels.flat (fun _ v => v) (labelled "x") = ⟨"Labelled", [("note", .text "x")]⟩ ∧
      ((labels.converter .empty).write "Labelled" (labelled "x")).result =
        .error (.invalidArgument (.repeatedName "Labelled" "note")) := by
  have hleaves : labels.leaves (labelled "x") =
      [(((Member.optional "label" "Option<String>" ⟨"String", .value .text⟩).named "note").field "Labelled",
        .text "x")] := by cbv
  refine ⟨?_, (throughout_labelled "x").imp fun _ h => h.isInstance.describes, ?_, by cbv, by cbv⟩
  · intro t ht
    obtain ⟨d, hd, rfl⟩ := List.mem_map.mp (labels.types_eq ▸ ht)
    exact distinctNames_labels d hd
  · rw [hleaves]
    exact List.forall_mem_singleton.mpr rfl

end DeclaredSchema
end EntityMapping
