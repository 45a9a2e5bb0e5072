import EntityMapping.Proofs.Converter.RoundTrip

/-!
# What can be loaded

Not everything that was stored can be loaded again. In strict mode an embedded object of which nothing is stored is
missing when its owner is built; otherwise an embedded object that was absent is built from nothing, which its type
may not allow.

* `DeclaredSchema.read_eq_ok_iff` — when an object is read, and which one
* `DeclaredSchema.ComesBack` — the objects that can be read from what was written
* `DeclaredSchema.isOk_read_write_iff` — an object is always written, and read again exactly if it is one of these
-/

namespace EntityMapping

/-! ## The type of what is read -/

namespace Contribution

theorem type_apply {k : Contribution} {o p : Object} (h : (k.apply o).result = .ok p) : p.type = o.type := by
  unfold apply at h
  rw [Traced.result_bind, bind_eq_ok] at h
  obtain ⟨x, -, hx⟩ := h
  cases x with
  | none =>
    cases hx
    rfl
  | some x =>
    dsimp only at hx
    rw [Traced.result_lift, FieldMapping.write] at hx
    split at hx
    · split at hx
      · cases hx
        exact ObjectOf.type_set _ _ _
      · simp at hx
    · simp at hx

theorem type_overlay (ks : List Contribution) (o : Object) : (overlay ks o).1.type = o.type := by
  induction ks generalizing o with
  | nil => rfl
  | cons k ks ih =>
    rw [overlay]
    cases hp : (k.apply o).result with
    | error e => rfl
    | ok p => exact (ih p).trans (type_apply hp)

theorem type_fill {ks : List Contribution} {o p : Object} (h : (fill ks o).result = .ok p) : p.type = o.type := by
  rw [fill, Traced.result_bind, bind_eq_ok] at h
  obtain ⟨-, -, hp⟩ := h
  cases hp
  exact type_overlay ks o

end Contribution

namespace EntityType

variable {t : EntityType} {o : Object}

/-- Whether the objects that come into being for a type are of that type. -/
def CreatesOwn (t : EntityType) : Prop :=
  match t.creation with
  | .fresh o => t.isInstance o = true
  | .constructed k => ∀ arguments o rest, k.build arguments = .ok (o, rest) → t.isInstance o = true

/-- What is put into an object does not change its type. -/
theorem isInstance_of_instantiate {ks : List Contribution} (ht : t.CreatesOwn) (h : (t.instantiate ks).result = .ok o) :
    t.isInstance o = true := by
  have hof {s : Object} (hs : t.isInstance s = true) (htype : o.type = s.type) : t.isInstance o = true := by
    rwa [isInstance, htype]
  unfold instantiate at h
  unfold CreatesOwn at ht
  split at h
  · next s hcreation =>
    rw [hcreation] at ht
    exact hof ht (Contribution.type_fill h)
  · next k hcreation =>
    rw [hcreation] at ht
    simp only [Traced.result_bind, bind_eq_ok] at h
    obtain ⟨arguments, -, s, hs, hfill⟩ := h
    refine hof ?_ (Contribution.type_fill hfill)
    unfold ConstructorCall.invoke ConstructorCall.result at hs
    dsimp only at hs
    split at hs
    · split at hs
      · simp at hs
      · next hbuild =>
        injection hs with hs
        subst hs
        exact ht _ _ _ hbuild
      · simp at hs
    · simp at hs

/-- What is read for a type is of that type. -/
theorem isInstance_of_read {c : Converter} {type : TypeName} {r : Record} (h : c.schema.entity type = .ok t)
    (ht : t.CreatesOwn) (ho : (c.read type r).result = .ok o) : t.isInstance o = true := by
  rw [Converter.read_eq h] at ho
  exact isInstance_of_instantiate ht ho

end EntityType

namespace Declaration

variable {d : Declaration} {o : Object}

/-- Whatever the arguments are, an object is put together under the name of the type. -/
theorem createsOwn (hstart : ∀ s, d.start = some s → s.type = d.typeName) : d.entityType.CreatesOwn := by
  unfold EntityType.CreatesOwn entityType
  dsimp only
  cases hcase : d.start with
  | some s => exact decide_eq_true (hstart s hcase)
  | none =>
    intro arguments o rest hbuild
    have hbuild : ((d.members.mapM Member.construct >>= fun slots => pure ⟨d.typeName, slots⟩ : Construction Object)
        arguments) = .ok (o, rest) := hbuild
    cases hslots : d.members.mapM Member.construct arguments with
    | error e =>
      rw [Construction.bind_of_error hslots] at hbuild
      simp at hbuild
    | ok slots =>
      rw [Construction.bind_of_ok hslots] at hbuild
      injection hbuild with hbuild
      exact decide_eq_true (by rw [← (Prod.mk.inj hbuild).1])

end Declaration

namespace DeclaredSchema

variable {D : DeclaredSchema} {c : Converter} {d : Declaration} {type : TypeName} {r : Record} {o : Object}

/-- What can be read is of a type that is declared, and accepted. -/
theorem declared_of_read (hc : c.schema = D.toSchema) (h : (c.read type r).result = .ok o) :
    ∃ d, D.declaration? type = some d ∧ c.schema.entity type = .ok d.entityType := by
  cases ht : c.schema.entity type with
  | error e =>
    rw [Converter.read_of_error ht] at h
    cases h
  | ok t =>
    obtain ⟨d, hd, rfl⟩ := exists_declaration? (hc ▸ ht)
    exact ⟨d, hd, rfl⟩

/-- What can be read is an object of the type. -/
theorem type_of_read (hc : c.schema = D.toSchema) (h : (c.read type r).result = .ok o) : o.type = type := by
  obtain ⟨d, hd, ht⟩ := declared_of_read hc h
  have hown := d.createsOwn fun s hs => (D.start_eq d (mem_of_declaration? hd) s hs).1
  rw [← typeName_of_declaration? hd]
  exact of_decide_eq_true (EntityType.isInstance_of_read ht hown h)

theorem type_of_reads (hc : c.schema = D.toSchema) {rs : List Record} {objects : List Object}
    (h : List.Forall₂ (fun s o => (c.read type s).result = .ok o) rs objects) : ∀ o ∈ objects, o.type = type := by
  intro o ho
  obtain ⟨s, -, hs⟩ := exists_of_forall₂ h.flip ho
  exact type_of_read hc hs

/-! ## What is said about a member -/

/-- In strict mode, an embedded object of which the record has a name is read, and kept if it holds something. -/
theorem contribution_of_embedded_strict (hc : c.schema = D.toSchema) (hu : D.Accepts type) (hstrict : c.strict = true)
    {f : FieldMapping} (hshape : f.shape = .embedded type) (hd : D.declaration? type = some d) :
    (c.contribution r f).value.result =
      if (D.flatNames type).any r.contains then (c.read type r).result >>= fun o =>
        .ok (if d.entityType.fields.all fun g => g.isNull o then none else some (.object o))
      else .ok none := by
  have hmentions : Converter.mentions c.schema type r = .ok ((D.flatNames type).any r.contains) := by
    rw [hc]
    exact Converter.mentions_of_accepts hu r
  rw [Converter.contribution_of_embedded hshape, hmentions, hc, entity_of_accepts hu hd, hstrict]
  rfl

/-- The objects of a collection are read one by one, and the standard suppliers hand them out as they are. -/
theorem contribution_of_collection_standard (hc : c.schema = D.toSchema) (hsuppliers : c.suppliers = .standard)
    {f : FieldMapping} {kind : CollectionKind} {v : Value} {rs : List Record} (hshape : f.shape = .collection kind type)
    (hv : r.get? f.name = some v) (hrs : Converter.nestedRecords f v = .ok rs)
    (ht : c.schema.entity type = .ok d.entityType) :
    (c.contribution r f).value.result = (rs.mapM fun s => (c.read type s).result) >>= fun objects =>
      .ok (some (.collection kind type (kind.ofList d.order objects))) := by
  cases hmap : rs.mapM fun s => (c.read type s).result with
  | error e =>
    obtain ⟨name, accepts, hsupply⟩ := Suppliers.supply_standard kind
    rw [Converter.contribution_of_collection hshape, hv]
    simp only [hrs, ht, hsuppliers, hsupply, hmap, bind, Except.bind]
  | ok objects =>
    have hobjects := mapM_eq_ok.mp hmap
    exact Converter.contribution_some_objects hsuppliers hshape hv hrs ht hobjects (type_of_reads hc hobjects)

/-- What a record says about a field is something that the field can hold. -/
theorem fits_of_contribution (hc : c.schema = D.toSchema) {f : FieldMapping} {x : Datum}
    (hx : (c.contribution r f).value.result = .ok (some x)) : x.fits f.shape = true := by
  cases hshape : f.shape with
  | value t =>
    rw [Converter.contribution_of_value hshape] at hx
    split at hx
    · simp at hx
    · rw [bind_eq_ok] at hx
      obtain ⟨v, -, hv⟩ := hx
      split at hv
      · simp [throw, throwThe, MonadExceptOf.throw] at hv
      · cases hv
        simp [Datum.fits]
  | embedded u =>
    rcases Converter.embedded_cases hshape hx with ⟨t, p, -, -, hp, h⟩ | ⟨-, -, h⟩
    · split at h
      · cases h
      · cases h
        simp [Datum.fits, type_of_read hc hp]
    · cases h
  | entity u =>
    rw [Converter.contribution_of_entity hshape] at hx
    split at hx
    · simp at hx
    · rw [bind_eq_ok] at hx
      obtain ⟨p, hp, hx⟩ := hx
      cases hx
      simp [Datum.fits, type_of_read hc hp]
    · simp at hx
  | collection kind u =>
    rw [Converter.contribution_of_collection hshape] at hx
    split at hx
    · simp at hx
    · simp only [bind_eq_ok] at hx
      obtain ⟨rs, -, t, ht, staging, -, objects, -, y, hy, hx⟩ := hx
      cases hx
      unfold Converter.assemble at hy
      rw [bind_eq_ok] at hy
      obtain ⟨items, -, hy⟩ := hy
      cases hy
      simp [Datum.fits, Schema.typeName_of_entity ht]

theorem fills_contribution (hc : c.schema = D.toSchema) (r : Record) : d.Fills (c.contribution r) where
  field _ := rfl
  fits m _ _ hx := fits_of_contribution (f := m.field d.typeName) hc hx

/-- **When an object of a declared type is read: the record says something acceptable about all mapped members, and
something about those that the constructor demands. The object holds what the record says.** -/
theorem read_eq_ok_iff (hc : c.schema = D.toSchema) (hd : D.declaration? type = some d)
    (ht : c.schema.entity type = .ok d.entityType) :
    (c.read type r).result = .ok o ↔
      ∃ value : Member → Option Datum, d.Says (c.contribution r) d.mapped value ∧
        (∀ m ∈ d.mapped, d.demands m = true → (value m).isSome = true) ∧ o = d.objectOf value := by
  have hmem := mem_of_declaration? hd
  rw [Converter.read_eq ht]
  exact Declaration.instantiate_eq_ok_iff (D.nodup_members d hmem) (D.start_eq d hmem) (fills_contribution hc r)

/-- All types that are embedded are consistent if an object is read. -/
theorem accepts_of_read {type : TypeName} {o : Object} (hc : c.schema = D.toSchema)
    (h : (c.read type r).result = .ok o) : D.Accepts type := by
  obtain ⟨d, hd, ht⟩ := declared_of_read hc h
  obtain ⟨value, hsaid, -, -⟩ := (read_eq_ok_iff hc hd ht).mp h
  refine .intro (hc ▸ ht) fun f hf u hu => ?_
  obtain ⟨m, hm, rfl⟩ := List.mem_map.mp hf
  have hdepth := Schema.depth_lt_of_embeds (hc ▸ ht) hf hu
  rcases Converter.embedded_cases (FieldMapping.embeds?_eq_some_iff.mp hu) (hsaid m hm) with
    ⟨-, p, -, -, hp, -⟩ | ⟨-, hmentions, -⟩
  · exact accepts_of_read hc hp
  · exact Converter.accepts_of_mentions (hc ▸ hmentions)
termination_by D.depth type

/-- What it means that an object was read. -/
theorem exists_of_read (hc : c.schema = D.toSchema) (h : (c.read type r).result = .ok o) :
    ∃ d value, D.declaration? type = some d ∧ d.Says (c.contribution r) d.mapped value ∧
      (∀ m ∈ d.mapped, d.demands m = true → (value m).isSome = true) ∧ o = d.objectOf value := by
  obtain ⟨ht, -⟩ := accepts_of_read hc h
  obtain ⟨d, hd, rfl⟩ := exists_declaration? ht
  obtain ⟨value, hsaid⟩ := (read_eq_ok_iff hc hd (hc ▸ ht)).mp h
  exact ⟨d, value, hd, hsaid⟩

/-- When no object is read, and with which error. -/
theorem read_eq_error_iff {e : MapError} (hc : c.schema = D.toSchema) (hd : D.declaration? type = some d)
    (ht : c.schema.entity type = .ok d.entityType) :
    (c.read type r).result = .error e ↔
      (d.mapped.mapM fun m => (c.contribution r (m.field d.typeName)).value.result) = .error e ∨
      ∃ value m, d.Says (c.contribution r) d.mapped value ∧ d.missing? (fun m => (value m).isSome) = some m ∧
        e = d.missingError m := by
  have hmem := mem_of_declaration? hd
  rw [Converter.read_eq ht]
  exact Declaration.instantiate_eq_error_iff (D.nodup_members d hmem) (D.start_eq d hmem) (fills_contribution hc r)

/-- Whether a record says something acceptable about a member. -/
def Answers (c : Converter) (r : Record) (d : Declaration) (m : Member) : Prop :=
  ∃ x, (c.contribution r (m.field d.typeName)).value.result = .ok x ∧ (d.demands m = true → x.isSome = true)

theorem isOk_read_iff (hc : c.schema = D.toSchema) (hD : D.Consistent) (hd : D.declaration? type = some d) :
    (c.read type r).result.isOk = true ↔ ∀ m ∈ d.mapped, Answers c r d m := by
  constructor
  · intro h
    obtain ⟨o, ho⟩ := exists_of_isOk h
    obtain ⟨value, hsaid, hdemands, -⟩ := (read_eq_ok_iff hc hd (entity_of_schema hc hD hd)).mp ho
    exact fun m hm => ⟨value m, hsaid m hm, hdemands m hm⟩
  · intro h
    choose! value hsaid hdemands using h
    rw [(read_eq_ok_iff hc hd (entity_of_schema hc hD hd)).mpr ⟨value, hsaid, hdemands, rfl⟩]
    rfl

theorem answers_of_some {m : Member} {x : Datum}
    (h : (c.contribution r (m.field d.typeName)).value.result = .ok (some x)) : Answers c r d m :=
  ⟨_, h, fun _ => rfl⟩

theorem answers_iff_of_bind {α : Type} {x : Except MapError α} {g : α → Datum} {m : Member}
    (h : (c.contribution r (m.field d.typeName)).value.result = x >>= fun y => .ok (some (g y))) :
    Answers c r d m ↔ x.isOk = true := by
  constructor
  · rintro ⟨y, hy, -⟩
    rw [h, bind_eq_ok] at hy
    obtain ⟨z, hz, -⟩ := hy
    rw [hz]
    rfl
  · intro hx
    obtain ⟨y, rfl⟩ := exists_of_isOk hx
    exact answers_of_some h

theorem answers_iff_of_none {m : Member}
    (h : (c.contribution r (m.field d.typeName)).value.result = .ok none) :
    Answers c r d m ↔ d.demands m = false := by
  constructor
  · rintro ⟨x, hx, hdemands⟩
    cases h.symm.trans hx
    simpa using hdemands
  · exact fun hdemands => ⟨none, h, by simp [hdemands]⟩

/-- About a field of which the record has the name, and that is not embedded, the record says something. -/
theorem isSome_of_contribution {f : FieldMapping} {v : Value} {x : Option Datum} (hembeds : f.embeds? = none)
    (hv : r.get? f.name = some v) (h : (c.contribution r f).value.result = .ok x) : x.isSome = true := by
  cases hshape : f.shape with
  | value t =>
    rw [Converter.contribution_of_value hshape, hv] at h
    dsimp only at h
    rw [bind_eq_ok] at h
    obtain ⟨w, -, hw⟩ := h
    split at hw
    · simp [throw, throwThe, MonadExceptOf.throw] at hw
    · cases hw
      rfl
  | embedded u => simp [FieldMapping.embeds?_of_shape hshape] at hembeds
  | entity u =>
    rw [Converter.contribution_of_entity hshape, hv] at h
    split at h
    · simp at *
    · rw [bind_eq_ok] at h
      obtain ⟨p, -, hp⟩ := h
      cases hp
      rfl
    · simp at h
  | collection kind u =>
    rw [Converter.contribution_of_collection hshape, hv] at h
    simp only [bind_eq_ok] at h
    obtain ⟨rs, -, t, -, staging, -, objects, -, y, -, hx⟩ := h
    cases hx
    rfl

/-! ## Embedded objects -/

theorem shape_ne_embedded {m : Member} {owner : TypeName} (h : (m.field owner).embeds? = none) (u : TypeName) :
    m.type.shape ≠ .embedded u := fun hshape => by
  rw [FieldMapping.embeds?_of_shape (f := m.field owner) hshape] at h
  simp at h

/-- In strict mode, an object that is read from a record with one of its names holds something. -/
theorem exists_isNull_of_read {type : TypeName} {d : Declaration} {o : Object} (hc : c.schema = D.toSchema)
    (hstrict : c.strict = true) (hd : D.declaration? type = some d)
    (hmentioned : (D.flatNames type).any r.contains = true) (h : (c.read type r).result = .ok o) :
    ∃ f ∈ d.entityType.fields, f.isNull o = false := by
  have htype := accepts_of_read hc h
  have ht := entity_of_accepts htype hd
  obtain ⟨value, hsaid, -, rfl⟩ := (read_eq_ok_iff hc hd (hc ▸ ht)).mp h
  obtain ⟨name, hname, hr⟩ := List.any_eq_true.mp hmentioned
  rw [Schema.flatNames_of_entity ht] at hname
  obtain ⟨f, hf, hname⟩ := List.mem_flatMap.mp hname
  obtain ⟨m, hm, rfl⟩ := List.mem_map.mp hf
  -- it is the member with that name that holds something
  have hsome : (value m).isSome = true := by
    cases hembeds : (m.field d.typeName).embeds? with
    | none =>
      simp only [Schema.namesOf, hembeds, List.mem_singleton] at hname
      rw [RecordOf.contains_eq_isSome, hname] at hr
      obtain ⟨v, hv⟩ := Option.isSome_iff_exists.mp hr
      exact isSome_of_contribution hembeds hv (hsaid m hm)
    | some u =>
      have hshape := FieldMapping.embeds?_eq_some_iff.mp hembeds
      obtain ⟨d', hd'⟩ := declaration?_of_target hd hm (u := u)
        (by rw [show m.type.shape = .embedded u from hshape]; rfl)
      have hinside : (D.flatNames u).any r.contains = true := by
        simp only [Schema.namesOf, hembeds] at hname
        exact List.any_eq_true.mpr ⟨name, hname, hr⟩
      have hu := htype.of_embeds? ht hf hembeds
      have hread := hsaid m hm
      rw [contribution_of_embedded_strict hc hu hstrict hshape hd', if_pos hinside, bind_eq_ok] at hread
      obtain ⟨p, hp, hvalue⟩ := hread
      have hdepth := Schema.depth_lt_of_embeds ht hf hembeds
      have hall : (d'.entityType.fields.all fun g => g.isNull p) = false := by
        simpa [List.all_eq_false] using exists_isNull_of_read hc hstrict hd' hinside hp
      rw [hall] at hvalue
      rw [← Except.ok.inj hvalue]
      rfl
  obtain ⟨x, hx⟩ := Option.isSome_iff_exists.mp hsome
  have hfits := (fills_contribution hc r).fits m hm x ((hsaid m hm).trans (congrArg Except.ok hx))
  refine ⟨_, hf, ?_⟩
  rw [FieldMapping.isNull, Declaration.read_objectOf (D.nodup_members d (mem_of_declaration? hd)) hm hx hfits]
  rfl
termination_by D.depth type

/-- So an embedded object of which the record has a name is kept if it is read. -/
theorem contribution_of_mentioned (hc : c.schema = D.toSchema) (hstrict : c.strict = true) {f : FieldMapping}
    (hshape : f.shape = .embedded type) (hmentioned : (D.flatNames type).any r.contains = true)
    (h : (c.read type r).result = .ok o) : (c.contribution r f).value.result = .ok (some (.object o)) := by
  obtain ⟨d, -, hd, -⟩ := exists_of_read hc h
  have hall : (d.entityType.fields.all fun g => g.isNull o) = false := by
    simpa [List.all_eq_false] using exists_isNull_of_read hc hstrict hd hmentioned h
  rw [contribution_of_embedded_strict hc (accepts_of_read hc h) hstrict hshape hd, if_pos hmentioned, h, bind_eq_ok]
  exact ⟨o, rfl, by rw [hall]; rfl⟩

theorem answers_iff_of_mentioned (hc : c.schema = D.toSchema) (hstrict : c.strict = true) {m : Member}
    (hshape : m.type.shape = .embedded type) (hmentioned : (D.flatNames type).any r.contains = true) :
    Answers c r d m ↔ (c.read type r).result.isOk = true := by
  constructor
  · rintro ⟨x, hx, -⟩
    rcases Converter.embedded_cases (f := m.field d.typeName) hshape hx with ⟨-, p, -, -, hp, -⟩ | ⟨-, hmentions, -⟩
    · rw [hp]
      rfl
    · have hnone := Converter.any_eq_false_of_mentions hmentions
      rw [hc, hmentioned] at hnone
      cases hnone
  · intro h
    obtain ⟨p, hp⟩ := exists_of_isOk h
    exact answers_of_some (contribution_of_mentioned hc hstrict hshape hmentioned hp)

theorem answers_iff_of_lenient (hlenient : c.strict = false) {m : Member} (hshape : m.type.shape = .embedded type) :
    Answers c r d m ↔ (c.read type r).result.isOk = true :=
  answers_iff_of_bind (Converter.contribution_of_embedded_lenient hshape hlenient)

/-- Whether an object of a type is built when a record has none of its names: whatever is demanded is itself built
in this way. -/
inductive BuildsFromNothing (D : DeclaredSchema) : TypeName → Prop
  | intro {type : TypeName} {d : Declaration} (declared : D.declaration? type = some d)
      (embedded : ∀ m ∈ d.mapped, ∀ u, m.type.shape = .embedded u → BuildsFromNothing D u)
      (demanded : ∀ m ∈ d.mapped, d.demands m = true → ∃ u, m.type.shape = .embedded u) : BuildsFromNothing D type

/-- Unless in strict mode, these are the objects that are read from a record that has none of their names. -/
theorem isOk_read_iff_buildsFromNothing {type : TypeName} {d : Declaration} (hc : c.schema = D.toSchema)
    (hD : D.Consistent) (hlenient : c.strict = false) (hd : D.declaration? type = some d)
    (hr : ∀ name ∈ D.flatNames type, r.get? name = none) :
    (c.read type r).result.isOk = true ↔ D.BuildsFromNothing type := by
  -- what is embedded is read from the record as well, and of the rest the record says nothing
  have hmember : ∀ m ∈ d.mapped, Answers c r d m ↔
      (∀ u, m.type.shape = .embedded u → D.BuildsFromNothing u) ∧
        (d.demands m = true → ∃ u, m.type.shape = .embedded u) := by
    intro m hm
    have hf : m.field d.typeName ∈ d.entityType.fields := List.mem_map_of_mem hm
    have hnames : ∀ name ∈ D.namesOf (m.field d.typeName), r.get? name = none := fun name hname => by
      refine hr name ?_
      rw [Schema.flatNames_of_entity (entity_of_declaration? hD hd)]
      exact List.mem_flatMap.mpr ⟨_, hf, hname⟩
    cases hembeds : (m.field d.typeName).embeds? with
    | none =>
      simp only [Schema.namesOf, hembeds, List.mem_singleton, forall_eq] at hnames
      have hshape := shape_ne_embedded hembeds
      rw [answers_iff_of_none (Converter.contribution_of_get?_none hembeds hnames)]
      simp [hshape]
    | some u =>
      have hshape : m.type.shape = .embedded u := FieldMapping.embeds?_eq_some_iff.mp hembeds
      obtain ⟨d', hd'⟩ := declaration?_of_target hd hm (u := u) (by rw [hshape]; rfl)
      have hdepth := Schema.depth_lt_of_embeds (entity_of_declaration? hD hd) hf hembeds
      simp only [Schema.namesOf, hembeds] at hnames
      rw [answers_iff_of_lenient hlenient hshape,
        isOk_read_iff_buildsFromNothing hc hD hlenient hd' hnames]
      simp [hshape]
  rw [isOk_read_iff hc hD hd]
  constructor
  · intro h
    exact .intro hd (fun m hm => ((hmember m hm).mp (h m hm)).1) fun m hm => ((hmember m hm).mp (h m hm)).2
  · rintro ⟨hd', embedded, demanded⟩ m hm
    cases hd.symm.trans hd'
    exact (hmember m hm).mpr ⟨embedded m hm, demanded m hm⟩
termination_by D.depth type

/-! ## Objects that come back -/

/-- Whether an object is embedded in a member, and nothing is stored of it. -/
def IsVoid (D : DeclaredSchema) (m : Member) (o : Object) : Prop :=
  m.type.shape = .embedded o.type ∧ D.populated o = []

/-- The objects that can be read from the records that are written for them. Unless in strict mode, an embedded object
that is absent must be one that is built from nothing; in strict mode, an embedded object of which nothing is stored
must be one that no constructor demands, and what is inside of it does not matter. -/
inductive ComesBack (D : DeclaredSchema) (strict : Bool) : Object → Prop
  | intro {o : Object} {d : Declaration} (declared : D.declaration? o.type = some d)
      (absent : strict = false → ∀ m ∈ d.mapped, o.get? m.name = none → ∀ u, m.type.shape = .embedded u →
        D.BuildsFromNothing u)
      (dropped : strict = true → ∀ m ∈ d.mapped, ∀ p, o.get? m.name = some (.object p) → D.IsVoid m p →
        d.demands m = false)
      (inside : ∀ m ∈ d.mapped, ∀ x, o.get? m.name = some x → ∀ p ∈ x.objects,
        (strict = true → ¬ D.IsVoid m p) → ComesBack D strict p) : ComesBack D strict o

/-- What this means for one member, which holds something or nothing. -/
structure MemberComesBack (D : DeclaredSchema) (strict : Bool) (d : Declaration) (m : Member) (held : Option Datum) :
    Prop where
  absent : strict = false → held = none → ∀ u, m.type.shape = .embedded u → D.BuildsFromNothing u
  dropped : strict = true → ∀ p, held = some (.object p) → D.IsVoid m p → d.demands m = false
  inside : ∀ x, held = some x → ∀ p ∈ x.objects, (strict = true → ¬ D.IsVoid m p) → D.ComesBack strict p

variable {strict : Bool} {m : Member}

theorem comesBack_iff (hd : D.declaration? o.type = some d) :
    D.ComesBack strict o ↔ ∀ m ∈ d.mapped, D.MemberComesBack strict d m (o.get? m.name) := by
  constructor
  · rintro ⟨hd', absent, dropped, inside⟩ m hm
    cases hd.symm.trans hd'
    exact ⟨fun hlenient => absent hlenient m hm, fun hstrict => dropped hstrict m hm, inside m hm⟩
  · intro h
    exact .intro hd (fun hlenient m hm => (h m hm).absent hlenient) (fun hstrict m hm => (h m hm).dropped hstrict)
      fun m hm => (h m hm).inside

/-- For a member that does not embed an object, only the objects inside matter. -/
theorem memberComesBack_iff_of_some {x : Datum} (hshape : ∀ u, m.type.shape ≠ .embedded u) :
    D.MemberComesBack strict d m (some x) ↔ ∀ p ∈ x.objects, D.ComesBack strict p := by
  constructor
  · exact fun h p hp => h.inside x rfl p hp fun _ hvoid => hshape _ hvoid.1
  · intro h
    refine ⟨fun _ hnone => (nomatch hnone), fun _ p _ hvoid => absurd hvoid.1 (hshape _), fun y hy p hp _ => ?_⟩
    cases hy
    exact h p hp

theorem memberComesBack_of_none (hmode : strict = false → ∀ u, m.type.shape = .embedded u → D.BuildsFromNothing u) :
    D.MemberComesBack strict d m none :=
  ⟨fun hlenient _ => hmode hlenient, fun _ _ hnone => (nomatch hnone), fun _ hnone => (nomatch hnone)⟩

/-- For an embedded object that is kept, it is the object that matters. -/
theorem memberComesBack_iff_of_kept {p : Object} (hkept : strict = true → ¬ D.IsVoid m p) :
    D.MemberComesBack strict d m (some (.object p)) ↔ D.ComesBack strict p := by
  constructor
  · exact fun h => h.inside _ rfl p List.mem_cons_self hkept
  · intro h
    refine ⟨fun _ hnone => (nomatch hnone), fun hstrict q hq hvoid => ?_, fun x hx q hq _ => ?_⟩
    · cases hq
      exact absurd hvoid (hkept hstrict)
    · cases hx
      exact List.mem_singleton.mp hq ▸ h

/-- For an embedded object that is dropped, it is what the constructor demands. -/
theorem memberComesBack_iff_of_dropped {p : Object} (hstrict : strict = true) (hvoid : D.IsVoid m p) :
    D.MemberComesBack strict d m (some (.object p)) ↔ d.demands m = false := by
  constructor
  · exact fun h => h.dropped hstrict p rfl hvoid
  · intro h
    refine ⟨fun _ hnone => (nomatch hnone), fun _ _ _ _ => h, fun x hx q hq hkept => ?_⟩
    cases hx
    exact absurd (List.mem_singleton.mp hq ▸ hvoid) (hkept hstrict)

/-! ## Reading what was written -/

/-- Whether an object is read from every record that reflects it, or from none, as it should be. -/
def ReadsBack (D : DeclaredSchema) (c : Converter) (o : Object) : Prop :=
  ∀ r, c.Reflects r o → ((c.read o.type r).result.isOk = true ↔ D.ComesBack c.strict o)

/-- Whether the members of the declared types have no attribute converters. -/
def Plain (D : DeclaredSchema) : Prop := ∀ d ∈ D.declarations, ∀ m ∈ d.mapped, m.converter = none

theorem inverts_of_plain (hplain : D.Plain) (a : Attributes) (o : Object) : D.Inverts a o :=
  fun d hd m hm ref href => by simp [hplain d (mem_of_declaration? hd) m hm] at href

/-- A record that is written for an object reflects it. -/
theorem reflects_of_written (hc : c.schema = D.toSchema) (hnames : D.DistinctNames)
    (hd : D.declaration? o.type = some d) (h : (c.write o.type o).result = .ok r) : c.Reflects r o :=
  Converter.reflects_of_write h (hc ▸ flatNames_nodup hnames hd)

/-- An object of its own is read from its record. -/
theorem answers_iff_of_entity (hc : c.schema = D.toSchema) (hnames : D.DistinctNames) {p : Object}
    (hd : D.declaration? p.type = some d) (hp : D.ReadsBack c p) {d' : Declaration} {v : Value}
    (hread : (m.field d'.typeName).read o = some (.object p))
    (hv : c.Contributes o (m.field d'.typeName) v) (hr : r.get? (m.field d'.typeName).name = some v) :
    Answers c r d' m ↔ D.ComesBack c.strict p := by
  cases hv with
  | value hread' => simp [hread] at hread'
  | @entity u q s hread' hshape hwritten =>
    rw [hread] at hread'
    cases hread'
    obtain rfl : p.type = u := by
      have hfits := FieldMapping.fits_of_read hread
      simpa [hshape, Datum.fits] using hfits
    rw [← hp s (reflects_of_written hc hnames hd hwritten)]
    refine answers_iff_of_bind (g := .object) ?_
    rw [Converter.contribution_of_entity hshape, hr]
    rfl
  | collection hread' => simp [hread] at hread'

/-- The objects of a collection are read from their records. -/
theorem answers_iff_of_collection (hc : c.schema = D.toSchema) (hnames : D.DistinctNames)
    (hsuppliers : c.suppliers = .standard) {kind : CollectionKind} {item : TypeName} {items : List Object}
    (hd : D.declaration? item = some d) (hitems : ∀ p ∈ items, p.type = item)
    (hback : ∀ p ∈ items, D.ReadsBack c p) {d' : Declaration} {v : Value}
    (hread : (m.field d'.typeName).read o = some (.collection kind item items))
    (hv : c.Contributes o (m.field d'.typeName) v) (hr : r.get? (m.field d'.typeName).name = some v) :
    Answers c r d' m ↔ ∀ p ∈ items, D.ComesBack c.strict p := by
  cases hv with
  | value hread' => simp [hread] at hread'
  | entity hread' => simp [hread] at hread'
  | @collection kind' item' items' t rs hread' ht hwritten =>
    rw [hread] at hread'
    cases hread'
    have hshape : (m.field d'.typeName).shape = .collection kind item := by
      have hfits := FieldMapping.fits_of_read hread
      cases hshape : (m.field d'.typeName).shape <;> simp_all [Datum.fits]
    -- each record is one from which the object comes back that it was written for
    have hone : List.Forall₂ (fun p s => (c.read item s).result.isOk = true ↔ D.ComesBack c.strict p) items rs := by
      refine ((List.forall₂_and_left items rs).mpr ⟨fun _ hp => hp, hwritten⟩).imp fun p s hps => ?_
      have htype : p.type = item := hitems p hps.1
      rw [← htype] at hps ⊢
      exact hback p hps.1 s (reflects_of_written hc hnames (htype ▸ hd) hps.2)
    constructor
    · rintro ⟨x, hx, -⟩ p hp
      rw [Converter.contribution_of_collection hshape, hr] at hx
      simp only [bind_eq_ok] at hx
      obtain ⟨rs', hrs', -, -, -, -, objects, hobjects, -⟩ := hx
      cases hrs'
      obtain ⟨i, hi, rfl⟩ := List.mem_iff_getElem.mp hp
      have hi' : i < rs.length := hone.length_eq ▸ hi
      refine (hone.get hi hi').mp ?_
      obtain ⟨q, hq⟩ := exists_of_mapM_eq_ok hobjects (List.getElem_mem hi')
      simp only [List.get_eq_getElem]
      rw [hq]
      rfl
    · intro h
      have hall : ∀ s ∈ rs, ∃ q, (c.read item s).result = .ok q := by
        intro s hs
        obtain ⟨i, hi, rfl⟩ := List.mem_iff_getElem.mp hs
        have hi' : i < items.length := hone.length_eq ▸ hi
        exact exists_of_isOk ((hone.get hi' hi).mpr (h _ (List.getElem_mem hi')))
      obtain ⟨objects, hobjects⟩ := exists_forall₂ hall
      exact answers_of_some (Converter.contribution_some_objects hsuppliers hshape hr rfl ht hobjects
        (type_of_reads hc hobjects))

section Reading

variable (hc : c.schema = D.toSchema) (hD : D.Consistent)
include hc hD

/-- An embedded object is read from the record of its owner, unless nothing is stored of it. -/
theorem answers_iff_of_embedded {p : Object} (hd : D.declaration? p.type = some d) (hp : D.ReadsBack c p)
    {d' : Declaration} (hshape : m.type.shape = .embedded p.type) (hr : c.Reflects r p) :
    Answers c r d' m ↔ D.MemberComesBack c.strict d' m (some (.object p)) := by
  have hu := accepts_of_declaration? hD hd
  cases hmode : c.strict with
  | false =>
    rw [answers_iff_of_lenient hmode hshape, hp r hr, hmode]
    exact (memberComesBack_iff_of_kept (by simp)).symm
  | true =>
    by_cases hvoid : D.IsVoid m p
    · -- the names of the object are not in the record
      have hunmentioned := contribution_of_embedded_strict (r := r) (f := m.field d'.typeName) hc hu hmode hshape hd
      rw [if_neg ?_] at hunmentioned
      · rw [answers_iff_of_none hunmentioned, memberComesBack_iff_of_dropped rfl hvoid]
      · rw [List.any_eq_true]
        rintro ⟨name, hname, hcontains⟩
        rw [RecordOf.contains_eq_isSome, hr.empty name (by rwa [hc]) (by simp [hc, hvoid.2])] at hcontains
        simp at hcontains
    · have hpopulated : D.populated p ≠ [] := fun h => hvoid ⟨hshape, h⟩
      obtain ⟨x, hx⟩ := List.exists_mem_of_ne_nil _ hpopulated
      obtain ⟨v, -, hv⟩ := hr.populated x (by rwa [hc])
      have hmentioned : (D.flatNames p.type).any r.contains = true :=
        List.any_eq_true.mpr ⟨_, (D.populated_sublist p).subset (List.mem_map_of_mem hx),
          by simp [RecordOf.contains_eq_isSome, hv]⟩
      rw [answers_iff_of_mentioned hc hmode hshape hmentioned, hp r hr, hmode]
      exact (memberComesBack_iff_of_kept fun _ => hvoid).symm

/-- Of an embedded object that is absent, the record has no name. -/
theorem answers_iff_of_absent {u : TypeName} (hd : D.declaration? u = some d) {d' : Declaration}
    (hdemands : d'.demands m = false) (hshape : m.type.shape = .embedded u)
    (hr : ∀ name ∈ D.flatNames u, r.get? name = none) :
    Answers c r d' m ↔ D.MemberComesBack c.strict d' m none := by
  have hu := accepts_of_declaration? hD hd
  cases hmode : c.strict with
  | false =>
    rw [answers_iff_of_lenient hmode hshape, isOk_read_iff_buildsFromNothing hc hD hmode hd hr]
    constructor
    · intro h
      refine memberComesBack_of_none fun _ v hv => ?_
      cases hshape.symm.trans hv
      exact h
    · exact fun h => h.absent rfl rfl u hshape
  | true =>
    have hunmentioned := contribution_of_embedded_strict (r := r) (f := m.field d'.typeName) hc hu hmode hshape hd
    rw [if_neg ?_] at hunmentioned
    · rw [answers_iff_of_none hunmentioned]
      exact iff_of_true hdemands (memberComesBack_of_none fun h => nomatch h)
    · rw [List.any_eq_true]
      rintro ⟨name, hname, hcontains⟩
      rw [RecordOf.contains_eq_isSome, hr name hname] at hcontains
      simp at hcontains

/-- What a record that reflects an object says about a member is acceptable if the member comes back. -/
theorem answers_iff_memberComesBack (hnames : D.DistinctNames) (hsuppliers : c.suppliers = .standard)
    (hplain : D.Plain) (hd : D.declaration? o.type = some d) (ho : d.HasInstance o)
    (hproper : ∀ m ∈ d.mapped, ∀ x, o.get? m.name = some x → x.Proper) (hr : c.Reflects r o) (hm : m ∈ d.mapped)
    (hinside : ∀ x, o.get? m.name = some x → ∀ p ∈ x.objects, D.IsInstance p ∧ D.ReadsBack c p) :
    Answers c r d m ↔ D.MemberComesBack c.strict d m (o.get? m.name) := by
  -- a member that holds nothing is not one that the constructor demands
  have hdemands (hx : o.get? m.name = none) : d.demands m = false := by
    by_contra h
    have hsome := ho.present m hm (Declaration.mayBeEmpty_of_demands (Bool.not_eq_false _ ▸ h))
    simp [hx] at hsome
  have hreflects := memberReflects hc hD hnames hd ho hr hm
  generalize hx : o.get? m.name = held at hreflects ⊢
  cases hreflects with
  | empty hembeds habsent =>
    have hshape := shape_ne_embedded hembeds
    rw [answers_iff_of_none (Converter.contribution_of_get?_none hembeds habsent)]
    exact iff_of_true (hdemands hx) (memberComesBack_of_none fun _ u hu => absurd hu (hshape u))
  | @stored x v hembeds hread hv hget =>
    rw [memberComesBack_iff_of_some (shape_ne_embedded hembeds)]
    cases x with
    | scalar t x =>
      have hsaid := contribution_of_scalar (inverts_of_plain hplain c.attributes o) hd hm hx (hproper m hm _ hx)
        hread hv hget
      exact iff_of_true (answers_of_some hsaid) (by simp [Datum.objects])
    | object p =>
      obtain ⟨⟨d', hd', -⟩, hback⟩ := hinside _ hx p (by simp [Datum.objects])
      simpa [Datum.objects] using answers_iff_of_entity hc hnames hd' hback hread hv hget
    | collection kind item items =>
      obtain ⟨d', hd'⟩ := declaration?_of_collection hd ho hm hx
      exact answers_iff_of_collection hc hnames hsuppliers hd' (hproper m hm _ hx)
        (fun p hp => (hinside _ hx p hp).2) hread hv hget
  | unmentioned hshape hd' habsent => exact answers_iff_of_absent hc hD hd' (hdemands hx) hshape habsent
  | @embedded p hshape hrp =>
    obtain ⟨⟨d', hd', -⟩, hback⟩ := hinside _ hx p (by simp [Datum.objects])
    exact answers_iff_of_embedded hc hD hd' hback hshape hrp

/-- An object is read from every record that reflects it, or from none. -/
theorem readsBack_of_throughout (hnames : D.DistinctNames) (hsuppliers : c.suppliers = .standard)
    (hplain : D.Plain) (h : D.Throughout D.IsInstance o) : D.IsInstance o ∧ D.ReadsBack c o := by
  induction h with
  | @intro o here inside ih =>
    refine ⟨here, fun r hr => ?_⟩
    obtain ⟨d, hd, ho, hproper⟩ := here
    rw [isOk_read_iff hc hD hd, comesBack_iff hd]
    refine forall₂_congr fun m hm => ?_
    exact answers_iff_memberComesBack hc hD hnames hsuppliers hplain hd ho hproper hr hm fun x hx =>
      ih d.describe (find?_of_declaration? hd) _ (List.mem_map_of_mem hm) x ((ho.read_field hm).trans hx)

end Reading

/-- **Every object is written to a record. It can be read from it again exactly if it is one that comes back.** -/
theorem isOk_read_write_iff (D : DeclaredSchema) (a : Attributes) (strict : Bool) (o : Object) (hD : D.Consistent)
    (hnames : D.DistinctNames) (hplain : D.Plain) (ho : D.Throughout D.IsInstance o) :
    ∃ r, ((Converter.mk D.toSchema a .standard strict).write o.type o).result = .ok r ∧
      (((Converter.mk D.toSchema a .standard strict).read o.type r).result.isOk = true ↔ D.ComesBack strict o) := by
  obtain ⟨r, hr⟩ := exists_write (c := ⟨D.toSchema, a, .standard, strict⟩) rfl hD
    (ho.imp fun o h => ⟨h, inverts_of_plain hplain a o⟩)
  obtain ⟨⟨d, hd, -⟩, hback⟩ := readsBack_of_throughout (c := ⟨D.toSchema, a, .standard, strict⟩) rfl hD hnames rfl
    hplain ho
  exact ⟨r, hr, hback r (reflects_of_written rfl hnames hd hr)⟩

/-! ## Guests -/

/-- A guest with a note, and with a home if there is one. -/
def guestDeclaration : Declaration where
  name := "Guest"
  typeName := "Guest"
  embeddable := false
  recordName := none
  members :=
    [.required "note" "Note" ⟨"Note", .embedded "Note"⟩,
      .optional "home" "Option<House>" ⟨"House", .embedded "House"⟩]
  start := none
  order _ _ := .eq

/-- Guests, with their notes and homes. -/
def guests : DeclaredSchema where
  types := [noteDeclaration, Converter.houseDeclaration, guestDeclaration].map Declaration.describe
  depth u := if u = "Guest" then 1 else 0
  depth_lt := by decide
  declarations := [noteDeclaration, Converter.houseDeclaration, guestDeclaration]
  types_eq := rfl
  nodup_members := by decide
  exists_target := by decide
  start_eq := by decide

/-- A guest, whose note may be without text. -/
def guest (text : Option String) (street : Option String) : Object :=
  ⟨"Guest", [("note", some (.object (note text))), ("home", street.map fun s => .object (Converter.house s))]⟩

theorem consistent_guests : guests.Consistent := by
  unfold Consistent
  decide

theorem distinctNames_guests : guests.DistinctNames := by
  intro d hd
  have hnote : guests.flatNames "Note" = ["text"] := by cbv
  have hhouse : guests.flatNames "House" = ["street"] := by cbv
  have hguest : guests.flatNames "Guest" = ["text", "street"] := by cbv
  simp only [guests, List.mem_cons, List.not_mem_nil, or_false] at hd
  rcases hd with rfl | rfl | rfl
  · simp [noteDeclaration, hnote]
  · simp [Converter.houseDeclaration, hhouse]
  · simp [guestDeclaration, hguest]

theorem plain_guests : guests.Plain := by
  unfold Plain
  decide

/-- An object that holds no other objects, and might not, comes back. -/
theorem comesBack_of_scalars (hd : D.declaration? o.type = some d)
    (hembeds : ∀ m ∈ d.mapped, (m.field d.typeName).embeds? = none)
    (hobjects : ∀ m ∈ d.mapped, ∀ x, o.get? m.name = some x → x.objects = []) : D.ComesBack strict o := by
  refine (comesBack_iff hd).mpr fun m hm => ?_
  have hshape := shape_ne_embedded (hembeds m hm)
  cases hx : o.get? m.name with
  | none => exact memberComesBack_of_none fun _ u hu => absurd hu (hshape u)
  | some x => exact (memberComesBack_iff_of_some hshape).mpr (by simp [hobjects m hm x hx])

theorem throughout_isInstance (hd : D.declaration? o.type = some d) (ho : d.HasInstance o)
    (h : ∀ m ∈ d.mapped, ∀ x, o.get? m.name = some x →
      x.Proper ∧ ∀ p ∈ x.objects, D.Throughout D.IsInstance p) : D.Throughout D.IsInstance o :=
  (throughout_iff hd ho).mpr
    ⟨⟨d, hd, ho, fun m hm x hx => (h m hm x hx).1⟩, fun m hm x hx => (h m hm x hx).2⟩

theorem hasInstance_house (street : String) : Converter.houseDeclaration.HasInstance (Converter.house street) where
  type := rfl
  slots := rfl
  fits m hm x hx := by
    obtain rfl := List.mem_singleton.mp (show m ∈ Converter.houseDeclaration.members from hm)
    cases hx
    rfl
  present m hm _ := by
    obtain rfl := List.mem_singleton.mp (show m ∈ Converter.houseDeclaration.members from hm)
    rfl

theorem mem_mapped_guest {m : Member} (hm : m ∈ guestDeclaration.mapped) :
    m = .required "note" "Note" ⟨"Note", .embedded "Note"⟩ ∨
      m = .optional "home" "Option<House>" ⟨"House", .embedded "House"⟩ :=
  List.mem_pair.mp (show m ∈ guestDeclaration.members from hm)

theorem hasInstance_guest (text street : Option String) : guestDeclaration.HasInstance (guest text street) where
  type := rfl
  slots := rfl
  fits m hm x hx := by
    rcases mem_mapped_guest hm with rfl | rfl
    · cases hx
      rfl
    · cases street with
      | none => cases hx
      | some s =>
        cases hx
        rfl
  present m hm hmay := by
    rcases mem_mapped_guest hm with rfl | rfl
    · rfl
    · cases hmay

theorem throughout_guest (text street : Option String) :
    guests.Throughout guests.IsInstance (guest text street) := by
  have hnote : guests.Throughout guests.IsInstance (note text) := by
    refine throughout_isInstance (d := noteDeclaration) rfl (hasInstance_note text) fun m hm x hx => ?_
    obtain rfl := List.mem_singleton.mp (show m ∈ noteDeclaration.members from hm)
    cases text with
    | none => cases hx
    | some s =>
      cases hx
      exact ⟨trivial, by simp [Datum.objects]⟩
  have hhouse (s : String) : guests.Throughout guests.IsInstance (Converter.house s) := by
    refine throughout_isInstance (d := Converter.houseDeclaration) rfl (hasInstance_house s) fun m hm x hx => ?_
    obtain rfl := List.mem_singleton.mp (show m ∈ Converter.houseDeclaration.members from hm)
    cases hx
    exact ⟨trivial, by simp [Datum.objects]⟩
  refine throughout_isInstance (d := guestDeclaration) rfl (hasInstance_guest text street) fun m hm x hx => ?_
  rcases mem_mapped_guest hm with rfl | rfl
  · cases hx
    exact ⟨trivial, fun p hp => List.mem_singleton.mp hp ▸ hnote⟩
  · cases street with
    | none => cases hx
    | some s =>
      cases hx
      exact ⟨trivial, fun p hp => List.mem_singleton.mp hp ▸ hhouse s⟩

/-- Unless in strict mode, a guest with a home comes back, also if there is no text in the note. -/
theorem comesBack_guest (text : Option String) (street : String) :
    guests.ComesBack false (guest text (some street)) := by
  refine (comesBack_iff (d := guestDeclaration) rfl).mpr fun m hm => ?_
  rcases mem_mapped_guest hm with rfl | rfl
  · refine (memberComesBack_iff_of_kept (p := note text) (by simp)).mpr ?_
    refine comesBack_of_scalars (d := noteDeclaration) rfl (by decide) fun m hm x hx => ?_
    obtain rfl := List.mem_singleton.mp (show m ∈ noteDeclaration.members from hm)
    cases text with
    | none => cases hx
    | some s =>
      cases hx
      rfl
  · refine (memberComesBack_iff_of_kept (p := Converter.house street) (by simp)).mpr ?_
    refine comesBack_of_scalars (d := Converter.houseDeclaration) rfl (by decide) fun m hm x hx => ?_
    obtain rfl := List.mem_singleton.mp (show m ∈ Converter.houseDeclaration.members from hm)
    cases hx
    rfl

/-- A guest with a home, and with a note without text, is written and read. -/
theorem isOk_read_write_guest :
    ∃ r, ((Converter.mk guests.toSchema .empty .standard false).write "Guest" (guest none (some "Baker"))).result =
        .ok r ∧
      ((Converter.mk guests.toSchema .empty .standard false).read "Guest" r).result.isOk = true := by
  obtain ⟨r, hwrite, hread⟩ := isOk_read_write_iff guests .empty false (guest none (some "Baker")) consistent_guests
    distinctNames_guests plain_guests (throughout_guest none (some "Baker"))
  exact ⟨r, hwrite, hread.mpr (comesBack_guest none "Baker")⟩

/-- In strict mode the note of a guest is missing if it is without text; otherwise a home is built for a guest who
has none, for which the street is missing. And not everything is written. -/
theorem read_write_fails :
    guests.DistinctNames ∧ guests.Plain ∧ labels.DistinctNames ∧ labels.Plain ∧
      guests.Throughout guests.IsInstance (guest none none) ∧ labels.Throughout labels.IsInstance (labelled "x") ∧
      ((Converter.mk guests.toSchema .empty .standard true).write "Guest" (guest none none)).result =
        .ok ⟨"Guest", []⟩ ∧
      ((Converter.mk guests.toSchema .empty .standard true).read "Guest" ⟨"Guest", []⟩).result =
        .error (.construction "Guest(note: Note, home: Option<House>)" (.inl (.missingArgument "note"))) ∧
      ((Converter.mk guests.toSchema .empty .standard false).write "Guest" (guest none none)).result =
        .ok ⟨"Guest", []⟩ ∧
      ((Converter.mk guests.toSchema .empty .standard false).read "Guest" ⟨"Guest", []⟩).result =
        .error (.construction "House(street: String)" (.inl (.missingArgument "street"))) ∧
      ((Converter.mk labels.toSchema .empty .standard true).write "Labelled" (labelled "x")).result =
        .error (.invalidArgument (.repeatedName "Labelled" "note")) := by
  refine ⟨distinctNames_guests, plain_guests, distinctNames_labels, ?_, throughout_guest none none,
    (throughout_labelled "x").imp fun _ h => h.isInstance, by cbv, by cbv, by cbv, by cbv, by cbv⟩
  unfold Plain
  decide

end DeclaredSchema
end EntityMapping
