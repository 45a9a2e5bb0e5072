import EntityMapping.Proofs.Converter.Loading

/-!
# Members of a scalar type

A member that holds a scalar and is stored without an attribute converter, under a name where nothing else is stored:
what an object holds there is under its name in the record, and what the record holds there is in the object.

* `DeclaredSchema.HasScalar` — types with such a member
* `DeclaredSchema.HasScalar.get?_of_write`, `DeclaredSchema.HasScalar.get?_of_read` — the two ways
-/

namespace EntityMapping

namespace DeclaredSchema

variable {D : DeclaredSchema} {c : Converter} {type : TypeName} {d : Declaration} {i : Member} {t : ScalarType}
  {name : String} {o : Object} {r : Record}

/-- Whether the objects of a type have a member of a scalar type that is stored as it is under the given name, where
nothing else is stored. -/
structure HasScalar (D : DeclaredSchema) (type : TypeName) (d : Declaration) (i : Member) (t : ScalarType)
    (name : String) : Prop where
  declared : D.declaration? type = some d
  consistent : d.describe.build.isOk = true
  mapped : i ∈ d.mapped
  shape : i.type.shape = .value t
  plain : i.converter = none
  stored : (i.field d.typeName).name = name
  alone : ∀ f ∈ d.entityType.fields, name ∈ D.namesOf f → f = i.field d.typeName

namespace HasScalar

theorem entity (h : D.HasScalar type d i t name) : D.entity type = .ok d.entityType :=
  entity_of_isOk h.declared h.consistent

/-- What a record says about the member is what it holds under its name. -/
theorem contribution_of_get? (h : D.HasScalar type d i t name) {v : Value} {x : t.Carrier}
    (hr : r.get? name = some v) (hv : t.decode v = .ok x) :
    (c.contribution r (i.field d.typeName)).value.result = .ok (some (.scalar t x)) := by
  have hloaded : (c.loadedValue (i.field d.typeName) v).result = .ok v := by
    unfold Converter.loadedValue
    rw [show (i.field d.typeName).converter = none from h.plain]
    rfl
  rw [Converter.contribution_of_value (f := i.field d.typeName) h.shape, h.stored, hr]
  simp only [hloaded, bind, Except.bind, hv]
  rfl

/-- An object that was read holds what the record holds under the name of the member. -/
theorem get?_of_read (h : D.HasScalar type d i t name) (hc : c.schema = D.toSchema) {v : Value} {x : t.Carrier}
    (hr : r.get? name = some v) (hv : t.decode v = .ok x) (hread : (c.read type r).result = .ok o) :
    o.get? i.name = some (.scalar t x) := by
  obtain ⟨value, hsaid, -, rfl⟩ := (read_eq_ok_iff hc h.declared (hc ▸ h.entity)).mp hread
  have hvalue : value i = some (.scalar t x) :=
    Except.ok.inj ((hsaid i h.mapped).symm.trans (h.contribution_of_get? hr hv))
  rw [Declaration.get?_objectOf (D.nodup_members d (mem_of_declaration? h.declared))
    (Declaration.mem_members h.mapped)]
  exact Declaration.held_of_some (List.mem_filter.mp h.mapped).2 hvalue

/-- A record that was written holds what the object holds in the member, or nothing. -/
theorem get?_of_write (h : D.HasScalar type d i t name) (hc : c.schema = D.toSchema)
    (hwrite : (c.write type o).result = .ok r) :
    r.name = d.entityType.name ∧
      (((i.field d.typeName).read o = none ∧ r.get? name = none) ∨
        ∃ x, (i.field d.typeName).read o = some (.scalar t x) ∧ r.get? name = some (t.encode x)) := by
  have ht : c.schema.entity type = .ok d.entityType := hc ▸ h.entity
  have halone : ∀ f ∈ d.entityType.fields, name ∈ c.schema.namesOf f → f = i.field d.typeName := hc ▸ h.alone
  obtain ⟨u, fields, hu, htype, -, hr⟩ := Converter.write_eq_ok.mp hwrite
  cases ht.symm.trans hu
  rw [← htype] at ht
  refine ⟨congrArg RecordOf.name hr, ?_⟩
  have hf : i.field d.typeName ∈ d.entityType.fields := List.mem_map_of_mem h.mapped
  have hplain : (i.field d.typeName).converter = none := h.plain
  rw [← h.stored] at halone ⊢
  rcases Converter.get?_of_value hwrite ht hf halone h.shape with hnone | ⟨x, v, hread, hstored, hget⟩
  · exact .inl hnone
  · rw [Converter.storedValue, hplain] at hstored
    exact .inr ⟨x, hread, hget.trans (congrArg some (Except.ok.inj hstored).symm)⟩

/-- A record of a proper object holds what the object holds in a member that is never empty. -/
theorem exists_of_write (h : D.HasScalar type d i t name) (hpresent : i.mayBeEmpty = false)
    (hc : c.schema = D.toSchema) (ho : d.HasInstance o) (hwrite : (c.write type o).result = .ok r) :
    r.name = d.entityType.name ∧ ∃ x, o.get? i.name = some (.scalar t x) ∧ r.get? name = some (t.encode x) := by
  obtain ⟨hname, ⟨hnone, -⟩ | ⟨x, hread, hget⟩⟩ := h.get?_of_write hc hwrite
  · have hsome := ho.present i h.mapped hpresent
    rw [← ho.read_field h.mapped, hnone] at hsome
    simp at hsome
  · exact ⟨hname, x, (ho.read_field h.mapped).symm.trans hread, hget⟩

end HasScalar
end DeclaredSchema
end EntityMapping
