import EntityMapping.Record
import EntityMapping.Scalar

/-!
# Objects

The objects that are mapped. An object is of a named type and has slots, each of which holds something
or nothing. What a slot holds is of one of three sorts: a scalar, another object, or a collection of objects.

A slot that is read and the object that it is read from are related in size by `sizeOf_lt_of_get?`, which is why
walks through an object end.
-/

namespace EntityMapping

/-- The name of a mapped type; it identifies the type. -/
abbrev TypeName := String

/-- The sorts of collections. -/
inductive CollectionKind where
  | list
  | deque
  | queue
  | set
  | sortedSet
  deriving DecidableEq, Repr, Inhabited

/-- The name of a sort of collections in messages. -/
def CollectionKind.text : CollectionKind → String
  | list => "list"
  | deque => "double-ended queue"
  | queue => "queue"
  | set => "set"
  | sortedSet => "sorted set"

/-- An object whose slots hold things of type `D`. -/
structure ObjectOf (D : Type) where
  type : TypeName
  slots : List (String × Option D)
  deriving Inhabited

/-- What a slot of an object holds. -/
inductive Datum where
  | scalar (type : ScalarType) (x : type.Carrier)
  | object (o : ObjectOf Datum)
  | collection (kind : CollectionKind) (item : TypeName) (items : List (ObjectOf Datum))

/-- An object of a mapped type. -/
abbrev Object := ObjectOf Datum

instance : Inhabited Datum := ⟨.scalar .boolean false⟩

namespace ObjectOf

/-- What a slot holds. -/
def get? (o : Object) (member : String) : Option Datum := (Fields.get? member o.slots).join

/-- Puts something into a slot. -/
def set (o : Object) (member : String) (d : Datum) : Object :=
  { o with slots := Fields.add member (some d) o.slots }

/-- Empties a slot. -/
def clear (o : Object) (member : String) : Object :=
  { o with slots := Fields.add member none o.slots }

theorem get?_set (o : Object) (member key : String) (d : Datum) :
    (o.set member d).get? key = if key = member then some d else o.get? key := by
  unfold get? set
  rw [Fields.get?_add]
  split <;> rfl

@[simp] theorem type_set (o : Object) (member : String) (d : Datum) : (o.set member d).type = o.type := rfl

/-- What a slot holds is smaller than the object. -/
theorem sizeOf_lt_of_get? {o : Object} {member : String} {d : Datum} (h : o.get? member = some d) :
    sizeOf d < sizeOf o := by
  have hmem := List.sizeOf_lt_of_mem (Fields.mem_of_get? (Option.join_eq_some_iff.mp h))
  cases o with
  | mk _ slots =>
    simp only [Prod.mk.sizeOf_spec, Option.some.sizeOf_spec, ObjectOf.mk.sizeOf_spec] at hmem ⊢
    omega

end ObjectOf
end EntityMapping
