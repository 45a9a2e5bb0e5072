import EntityMapping.Proofs.Record.Fields
import EntityMapping.Proofs.Scalar
import EntityMapping.Proofs.Schema.Names
import EntityMapping.Schema.Declaration

/-!
# Declared types

Schemas whose types were declared, and the objects of such types.

* `DeclaredSchema` — types that were declared properly
* `Declaration.HasInstance` — an object with the members of a declaration
* `Schema.Throughout` — what holds of an object and of all mapped objects inside
-/

namespace EntityMapping

/-! ## Objects -/

namespace ObjectOf

/-- Objects of one type with the same members are equal if they hold the same. -/
theorem ext_get? {o p : Object} (htype : o.type = p.type)
    (hslots : o.slots.map Prod.fst = p.slots.map Prod.fst) (hnodup : (o.slots.map Prod.fst).Nodup)
    (hget : ∀ name ∈ o.slots.map Prod.fst, o.get? name = p.get? name) : o = p := by
  have hfields : o.slots = p.slots := by
    refine Fields.ext_get? hslots hnodup fun name hname => ?_
    obtain ⟨x, hx⟩ := Option.isSome_iff_exists.mp (Fields.isSome_get?_iff.mpr hname)
    obtain ⟨y, hy⟩ := Option.isSome_iff_exists.mp (Fields.isSome_get?_iff.mpr (hslots ▸ hname))
    have hjoin := hget name hname
    rw [get?, get?, hx, hy] at hjoin
    rw [hx, hy]
    exact congrArg some hjoin
  cases o
  cases p
  simp_all

theorem names_set {o : Object} {member : String} (h : member ∈ o.slots.map Prod.fst) (d : Datum) :
    (o.set member d).slots.map Prod.fst = o.slots.map Prod.fst := by
  rw [set, Fields.names_add, if_pos h]

end ObjectOf

/-- The objects that are inside, one level down. -/
def Datum.objects : Datum → List Object
  | .scalar .. => []
  | .object o => [o]
  | .collection _ _ items => items

/-- Whether something is what a member of its shape is meant to hold. -/
def Datum.Proper : Datum → Prop
  | .scalar t x => t.Holds x
  | .object _ => True
  | .collection _ item items => ∀ o ∈ items, o.type = item

/-- Whether a property holds of an object and of all objects inside, as far as they are mapped. -/
inductive Schema.Throughout (S : Schema) (P : Object → Prop) : Object → Prop
  | intro {o : Object} (here : P o)
      (inside : ∀ d, S.find? o.type = some d → ∀ f ∈ d.fields, ∀ x, f.read o = some x →
        ∀ p ∈ x.objects, Throughout S P p) : Throughout S P o

theorem Schema.Throughout.holds {S : Schema} {P : Object → Prop} {o : Object} (h : S.Throughout P o) : P o := by
  obtain ⟨here, -⟩ := h
  exact here

theorem Schema.Throughout.imp {S : Schema} {P Q : Object → Prop} {o : Object} (hPQ : ∀ o, P o → Q o)
    (h : S.Throughout P o) : S.Throughout Q o := by
  induction h with
  | intro here _ ih => exact .intro (hPQ _ here) ih

/-! ## Declarations -/

/-- What has a key of its own is found by it. -/
theorem find?_of_nodup {α β : Type} [DecidableEq β] {key : α → β} {as : List α} (hnodup : (as.map key).Nodup)
    {a : α} (ha : a ∈ as) : as.find? (fun b => key b = key a) = some a := by
  induction as with
  | nil => simp at ha
  | cons b as ih =>
    obtain ⟨hfresh, hrest⟩ := List.nodup_cons.mp hnodup
    rcases List.mem_cons.mp ha with rfl | ha
    · simp
    · have hne : key b ≠ key a := fun heq => hfresh (heq ▸ List.mem_map_of_mem ha)
      rw [List.find?_cons_of_neg (by simpa using hne)]
      exact ih hrest ha

/-- The type of the objects that a shape refers to. -/
def Shape.target? : Shape → Option TypeName
  | .value _ => none
  | .embedded u => some u
  | .entity u => some u
  | .collection _ item => some item

namespace Declaration

variable {d : Declaration}

/-- The entity type that follows from a declaration. -/
def entityType (d : Declaration) : EntityType where
  name := d.recordName.getD d.name
  typeName := d.typeName
  embeddable := d.embeddable
  fields := d.mapped.map (Member.field d.typeName)
  creation :=
    match d.start with
    | some o => .fresh o
    | none => .constructed d.constructor
  order := d.order

theorem eq_entityType_of_build {t : EntityType} (h : d.describe.build = .ok t) : t = d.entityType := by
  obtain ⟨hcreation, ht⟩ := TypeDescription.eq_of_build h
  injection hcreation with hcreation
  rw [ht, ← hcreation]
  rfl

/-- Whether an object has the members of a declaration: they hold what fits, and those that are not optional hold
something. -/
structure HasInstance (d : Declaration) (o : Object) : Prop where
  type : o.type = d.typeName
  slots : o.slots.map Prod.fst = d.members.map Member.name
  fits : ∀ m ∈ d.mapped, ∀ x, o.get? m.name = some x → x.fits m.type.shape = true
  present : ∀ m ∈ d.mapped, m.mayBeEmpty = false → (o.get? m.name).isSome = true

/-- What a member that is not mapped starts with. -/
def initial (d : Declaration) (m : Member) : Option Datum :=
  match d.start, m.presence with
  | some o, _ => o.get? m.name
  | none, .skipped x => x
  | none, _ => none

/-- The field of a member reads what the member holds. -/
theorem HasInstance.read_field {o : Object} (h : d.HasInstance o) {m : Member} (hm : m ∈ d.mapped) :
    (m.field d.typeName).read o = o.get? m.name := by
  rw [FieldMapping.read, if_pos (by exact h.type)]
  cases hx : o.get? m.name with
  | none => simp [Member.field, hx]
  | some x => simpa [Member.field, hx, FieldMapping.shape] using h.fits m hm x hx

theorem nodup_mapped (h : (d.members.map Member.name).Nodup) : (d.mapped.map Member.name).Nodup :=
  h.sublist (List.filter_sublist.map _)

theorem mem_members {m : Member} (h : m ∈ d.mapped) : m ∈ d.members := List.mem_of_mem_filter h

end Declaration

/-! ## Schemas -/

/-- A schema of types that were declared: their members have different names and refer to types that are there,
and an object that others start as has all members. -/
structure DeclaredSchema extends Schema where
  declarations : List Declaration
  types_eq : types = declarations.map Declaration.describe
  nodup_members : ∀ d ∈ declarations, (d.members.map Member.name).Nodup
  exists_target : ∀ d ∈ declarations, ∀ m ∈ d.mapped, ∀ u ∈ m.type.shape.target?,
    ∃ d' ∈ declarations, d'.typeName = u
  start_eq : ∀ d ∈ declarations, ∀ o ∈ d.start,
    o.type = d.typeName ∧ o.slots.map Prod.fst = d.members.map Member.name

namespace DeclaredSchema

variable {D : DeclaredSchema} {type : TypeName} {d : Declaration}

/-- The declaration of a type. -/
def declaration? (D : DeclaredSchema) (type : TypeName) : Option Declaration :=
  D.declarations.find? fun d => d.typeName = type

theorem mem_of_declaration? (h : D.declaration? type = some d) : d ∈ D.declarations :=
  List.mem_of_find?_eq_some h

theorem typeName_of_declaration? (h : D.declaration? type = some d) : d.typeName = type := by
  simpa using List.find?_some h

theorem find?_eq (D : DeclaredSchema) (type : TypeName) :
    D.find? type = (D.declaration? type).map Declaration.describe := by
  rw [Schema.find?, D.types_eq, List.find?_map]
  rfl

/-- A type is described by its declaration. -/
theorem find?_of_declaration? (h : D.declaration? type = some d) : D.find? type = some d.describe := by
  rw [D.find?_eq, h]
  rfl

/-- The types that the members refer to are declared. -/
theorem declaration?_of_target (h : D.declaration? type = some d) {m : Member} (hm : m ∈ d.mapped) {u : TypeName}
    (hu : m.type.shape.target? = some u) : ∃ d', D.declaration? u = some d' := by
  obtain ⟨d', hd', hname⟩ := D.exists_target d (mem_of_declaration? h) m hm u hu
  exact Option.isSome_iff_exists.mp (List.find?_isSome.mpr ⟨d', hd', by simpa using hname⟩)

/-- The items of a collection are of a declared type. -/
theorem declaration?_of_collection {o : Object} {m : Member} {kind : CollectionKind} {item : TypeName}
    {items : List Object} (h : D.declaration? type = some d) (ho : d.HasInstance o) (hm : m ∈ d.mapped)
    (hx : o.get? m.name = some (.collection kind item items)) : ∃ d', D.declaration? item = some d' := by
  have hfits := ho.fits m hm _ hx
  refine declaration?_of_target h hm ?_
  cases hshape : m.type.shape <;> simp_all [Datum.fits, Shape.target?]

/-- Whether the descriptions of all types are consistent. -/
def Consistent (D : DeclaredSchema) : Prop := ∀ d ∈ D.declarations, d.describe.build.isOk = true

/-- The entity type of a name is that of its declaration, if this is consistent. -/
theorem entity_of_isOk (h : D.declaration? type = some d) (hd : d.describe.build.isOk = true) :
    D.entity type = .ok d.entityType := by
  obtain ⟨t, ht⟩ := exists_of_isOk hd
  rw [Schema.entity_of_find? (find?_of_declaration? h), ht, Declaration.eq_entityType_of_build ht]

theorem entity_of_declaration? (hD : D.Consistent) (h : D.declaration? type = some d) :
    D.entity type = .ok d.entityType :=
  entity_of_isOk h (hD d (mem_of_declaration? h))

/-- An entity type of the schema is that of a declaration. -/
theorem exists_declaration? {t : EntityType} (h : D.entity type = .ok t) :
    ∃ d, D.declaration? type = some d ∧ t = d.entityType := by
  obtain ⟨description, hfind, hbuild⟩ := Schema.find?_of_entity h
  rw [D.find?_eq, Option.map_eq_some_iff] at hfind
  obtain ⟨d, hd, rfl⟩ := hfind
  exact ⟨d, hd, Declaration.eq_entityType_of_build hbuild⟩

/-- The entity type of an accepted type is that of its declaration. -/
theorem entity_of_accepts (h : D.Accepts type) (hd : D.declaration? type = some d) :
    D.entity type = .ok d.entityType := by
  obtain ⟨ht, -⟩ := h
  obtain ⟨d', hd', rfl⟩ := exists_declaration? ht
  cases hd.symm.trans hd'
  exact ht

theorem accepts_of_declaration? (hD : D.Consistent) (h : D.declaration? type = some d) :
    D.Accepts type := by
  refine Schema.accepts_of_forall ?_ ?_ (by simp [find?_of_declaration? h])
  · intro description hmem
    rw [D.types_eq] at hmem
    obtain ⟨d', hd', rfl⟩ := List.mem_map.mp hmem
    exact hD d' hd'
  · intro description hmem f hf u hu
    rw [D.types_eq] at hmem
    obtain ⟨d', hd', rfl⟩ := List.mem_map.mp hmem
    obtain ⟨m, hm, rfl⟩ := List.mem_map.mp hf
    have hshape : m.type.shape = .embedded u := FieldMapping.embeds?_eq_some_iff.mp hu
    obtain ⟨d'', hd'', hname⟩ := D.exists_target d' hd' m hm u (by rw [hshape]; rfl)
    rw [D.find?_eq, Option.isSome_map]
    exact List.find?_isSome.mpr ⟨d'', hd'', by simpa using hname⟩

/-- The objects inside an object of a declared type are in its mapped members. -/
theorem throughout_iff {P : Object → Prop} {o : Object} (hd : D.declaration? o.type = some d)
    (ho : d.HasInstance o) :
    D.Throughout P o ↔
      P o ∧ ∀ m ∈ d.mapped, ∀ x, o.get? m.name = some x → ∀ p ∈ x.objects, D.Throughout P p := by
  constructor
  · rintro ⟨here, inside⟩
    refine ⟨here, fun m hm x hx => inside d.describe (find?_of_declaration? hd) _ (List.mem_map_of_mem hm) x ?_⟩
    rw [ho.read_field hm, hx]
  · rintro ⟨here, inside⟩
    refine .intro here fun description hfind f hf x hx => ?_
    rw [find?_of_declaration? hd] at hfind
    cases hfind
    obtain ⟨m, hm, rfl⟩ := List.mem_map.mp hf
    exact inside m hm x ((ho.read_field hm).symm.trans hx)

end DeclaredSchema
end EntityMapping
