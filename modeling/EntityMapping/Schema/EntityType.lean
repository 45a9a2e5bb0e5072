import EntityMapping.Schema.Construction

/-!
# Entity types

A mapped type is described by its fields and by how its objects come into being. Such a description becomes an
entity type when it is consistent: at most one field is the id, no two fields are stored under one name, there is
a way to create objects, and a constructor takes members that are mapped. The first of these that fails is
reported.
-/

namespace EntityMapping

/-- The description of a mapped type. -/
structure TypeDescription where
  /-- The name of the records that its objects become. -/
  name : String
  typeName : TypeName
  embeddable : Bool
  fields : List FieldMapping
  creation : Option Creation
  /-- The order of its objects, for sets: equal objects count as the same one. -/
  order : Object → Object → Ordering

/-- A consistent mapped type. -/
structure EntityType where
  name : String
  typeName : TypeName
  embeddable : Bool
  fields : List FieldMapping
  creation : Creation
  order : Object → Object → Ordering

namespace TypeDescription

/-- The first name in a list that stands further left, too. -/
def repeated? (seen : List String) : List String → Option String
  | [] => none
  | name :: names => if name ∈ seen then some name else repeated? (name :: seen) names

/-- The first parameter of a constructor that is no mapped member. -/
def unmapped? (fields : List FieldMapping) : Creation → Option (String × String)
  | .fresh _ => none
  | .constructed k =>
    (k.parameters.find? fun p => !fields.any fun f => f.member = p).map fun p => (k.signature, p)

/-- Checks a description. -/
def build (d : TypeDescription) : Except MapError EntityType :=
  let ids := d.fields.countP FieldMapping.isId
  if 1 < ids then .error (.invalidArgument (.manyIds d.name ids))
  else match repeated? [] (d.fields.map FieldMapping.name) with
    | some name => .error (.invalidArgument (.repeatedName d.name name))
    | none =>
      match d.creation with
      | none => .error (.invalidArgument (.noConstructor d.name))
      | some creation =>
        match unmapped? d.fields creation with
        | some (signature, p) => .error (.invalidArgument (.unmappedParameter signature p))
        | none => .ok ⟨d.name, d.typeName, d.embeddable, d.fields, creation, d.order⟩

/-- An entity type has the fields of its description. -/
theorem fields_of_build {d : TypeDescription} {t : EntityType} (h : d.build = .ok t) :
    t.fields = d.fields := by
  unfold build at h
  dsimp only at h
  split at h
  · simp at h
  · split at h
    · simp at h
    · split at h
      · simp at h
      · split at h
        · simp at h
        · injection h with h
          rw [← h]

/-- An entity type has the name of its description. -/
theorem typeName_of_build {d : TypeDescription} {t : EntityType} (h : d.build = .ok t) :
    t.typeName = d.typeName := by
  unfold build at h
  dsimp only at h
  split at h
  · simp at h
  · split at h
    · simp at h
    · split at h
      · simp at h
      · split at h
        · simp at h
        · injection h with h
          rw [← h]

end TypeDescription

namespace EntityType

/-- Whether an object is of the type. -/
def isInstance (t : EntityType) (o : Object) : Bool := o.type = t.typeName

/-- The id field. -/
def id? (t : EntityType) : Option FieldMapping := t.fields.find? FieldMapping.isId

/-- The field of a member. -/
def field? (t : EntityType) (member : String) : Option FieldMapping :=
  t.fields.find? fun f => f.member = member

/-- The field that is stored under a name. -/
def fieldByName? (t : EntityType) (name : String) : Option FieldMapping :=
  t.fields.find? fun f => f.name = name

/-- The fields of a class. -/
def fieldsOf (t : EntityType) (kind : MappingKind) : List FieldMapping :=
  t.fields.filter fun f => f.shape.kind = kind

/-- The members of an object that hold nothing. -/
def nullMembers (t : EntityType) (o : Object) : List String :=
  (t.fields.filter fun f => f.isNull o).map FieldMapping.member

/-- The constructor, if objects are built by one. -/
def constructor? (t : EntityType) : Option Constructor :=
  match t.creation with
  | .fresh _ => none
  | .constructed k => some k

/-- A new object, if objects start as copies. -/
def newInstance? (t : EntityType) : Option Object :=
  match t.creation with
  | .fresh o => some o
  | .constructed _ => none

/-- The beginning of a call of the constructor. -/
def call (t : EntityType) : Except MapError ConstructorCall :=
  match t.constructor? with
  | some k => .ok ⟨t.name, k, []⟩
  | none => .error (.invalidArgument (.notConstructed t.name))

end EntityType
end EntityMapping
