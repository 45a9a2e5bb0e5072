import EntityMapping.Attribute
import EntityMapping.Object

/-!
# Mapped fields

How one member of a type takes part in the mapping: what it holds, and under which name it is stored. A member
that holds an object of an embeddable type is *embedded*: the fields of the object are stored among those of
its owner. An object of any other type is stored as a record of its own.
-/

namespace EntityMapping

/-- What a member holds. -/
inductive Shape where
  | value (type : ScalarType)
  | embedded (target : TypeName)
  | entity (target : TypeName)
  | collection (kind : CollectionKind) (item : TypeName)
  deriving DecidableEq, Repr

/-- Whether something is of the type that a shape describes. -/
def Datum.fits : Datum → Shape → Bool
  | .scalar t _, .value u => t = u
  | .object o, .embedded u => o.type = u
  | .object o, .entity u => o.type = u
  | .collection k u _, .collection l v => k = l && u = v
  | _, _ => false

/-- A shape together with the name that its type is shown by. -/
structure FieldType where
  text : String
  shape : Shape
  deriving DecidableEq, Repr

/-- A mapped type as the types that refer to it know it. -/
structure TypeRef where
  name : TypeName
  embeddable : Bool
  deriving DecidableEq, Repr

/-- The type of a member that holds an object of the given type. -/
def FieldType.object (t : TypeRef) : FieldType :=
  ⟨t.name, if t.embeddable then .embedded t.name else .entity t.name⟩

/-- How a member is classified. -/
inductive MappingKind where
  | default
  | embedded
  | entity
  | collection
  deriving DecidableEq, Repr

/-- The class of a shape. Lists of scalars count as collections although they are stored as values. -/
def Shape.kind : Shape → MappingKind
  | value t => if t.isList then .collection else .default
  | embedded _ => .embedded
  | entity _ => .entity
  | collection .. => .collection

/-- The mapping of one member of a type. -/
structure FieldMapping where
  /-- The type that has the member. -/
  owner : TypeName
  /-- The name of the member. -/
  member : String
  /-- The name under which it is stored. -/
  name : String
  type : FieldType
  isId : Bool
  converter : Option ConverterRef

namespace FieldMapping

/-- A member that is stored under its own name. -/
def of (owner : TypeName) (member : String) (type : FieldType) : FieldMapping :=
  ⟨owner, member, member, type, false, none⟩

/-- What the member holds. -/
def shape (f : FieldMapping) : Shape := f.type.shape

/-- The type that is embedded by the member. -/
def embeds? (f : FieldMapping) : Option TypeName :=
  match f.shape with
  | .embedded u => some u
  | _ => none

theorem embeds?_of_shape {f : FieldMapping} {u : TypeName} (h : f.shape = .embedded u) :
    f.embeds? = some u := by
  simp [embeds?, h]

/-- Whether the member is a collection of mapped objects. -/
def isEmbeddable (f : FieldMapping) : Bool :=
  match f.shape with
  | .collection .. => true
  | _ => false

/-- What the member of an object holds; an object of another type has no such member. -/
def read (f : FieldMapping) (o : Object) : Option Datum :=
  if o.type = f.owner then (o.get? f.member).filter fun d => d.fits f.shape else none

/-- Whether the member of an object holds nothing. -/
def isNull (f : FieldMapping) (o : Object) : Bool := (f.read o).isNone

/-- Puts something into the member of an object. What is put there is looked at before the object is. -/
def write (f : FieldMapping) (o : Object) (d : Datum) : Except MapError Object :=
  if d.fits f.shape then
    if o.type = f.owner then .ok (o.set f.member d)
    else .error (.typeMismatch (.wrongTarget f.owner))
  else .error (.typeMismatch (.wrongType f.member f.type.text))

/-- What is read from an object is smaller than the object. -/
theorem sizeOf_lt_of_read {f : FieldMapping} {o : Object} {d : Datum} (h : f.read o = some d) :
    sizeOf d < sizeOf o := by
  unfold read at h
  split at h
  · exact ObjectOf.sizeOf_lt_of_get? (Option.filter_eq_some_iff.mp h).1
  · simp at h

/-- A member reads back what was written into it. -/
theorem read_write {f : FieldMapping} {o p : Object} {d : Datum} (h : f.write o d = .ok p) :
    f.read p = some d := by
  unfold write at h
  split at h
  · next hfits =>
    split at h
    · next hown =>
      injection h with h
      subst h
      simp [read, hown, ObjectOf.get?_set, hfits]
    · simp at h
  · simp at h

end FieldMapping
end EntityMapping
