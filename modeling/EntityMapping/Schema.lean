import EntityMapping.Schema.EntityType

/-!
# Schemas

The mapped types that know of each other. Types may hold objects of each other and of themselves in any way but
one: a type does not embed itself, neither directly nor through the types that it embeds. This is what
`depth` says, a number that falls from a type to the types that it embeds; walks that stay with one record go
down along it.
-/

namespace EntityMapping

/-- Mapped types, none of which embeds itself. -/
structure Schema where
  types : List TypeDescription
  depth : TypeName → Nat
  depth_lt : ∀ t ∈ types, ∀ f ∈ t.fields, ∀ u ∈ f.embeds?, depth u < depth t.typeName

namespace Schema

/-- The description of a type. -/
def find? (S : Schema) (type : TypeName) : Option TypeDescription :=
  S.types.find? fun d => d.typeName = type

/-- The entity type of a name. -/
def entity (S : Schema) (type : TypeName) : Except MapError EntityType :=
  match S.find? type with
  | some d => d.build
  | none => .error (.unknownEntity type)

/-- What is found under a name is the entity type of that name. -/
theorem typeName_of_entity {S : Schema} {type : TypeName} {t : EntityType} (h : S.entity type = .ok t) :
    t.typeName = type := by
  unfold entity at h
  split at h
  · next d hd =>
    rw [TypeDescription.typeName_of_build h]
    simpa using List.find?_some hd
  · simp at h

/-- An embedded type is less deep than the type that embeds it. -/
theorem depth_lt_of_embeds {S : Schema} {type u : TypeName} {t : EntityType} {f : FieldMapping}
    (h : S.entity type = .ok t) (hf : f ∈ t.fields) (hu : f.embeds? = some u) :
    S.depth u < S.depth type := by
  have hname := typeName_of_entity h
  unfold entity at h
  split at h
  · next d hd =>
    rw [TypeDescription.fields_of_build h] at hf
    have := S.depth_lt d (List.mem_of_find?_eq_some hd) f hf u hu
    rwa [← TypeDescription.typeName_of_build h, hname] at this
  · simp at h

/-- How deep a type embeds others, counting up to `limit`. -/
def depthWithin (types : List TypeDescription) : Nat → TypeName → Nat
  | 0, _ => 0
  | limit + 1, type =>
    match types.find? fun d => d.typeName = type with
    | none => 0
    | some d =>
      (d.fields.filterMap FieldMapping.embeds?).foldl
        (fun depth u => max depth (depthWithin types limit u + 1)) 0

/-- The schema of the given types, unless one of them embeds itself. -/
def ofTypes? (types : List TypeDescription) : Option Schema :=
  let depth := depthWithin types types.length
  if h : ∀ t ∈ types, ∀ f ∈ t.fields, ∀ u ∈ f.embeds?, depth u < depth t.typeName then
    some ⟨types, depth, h⟩
  else none

end Schema
end EntityMapping
