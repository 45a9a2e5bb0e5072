import EntityMapping.Converter

/-!
# Objects to records

Each field of an object contributes to its record: a plain field one value, an embedded object the fields of its
own record, any other object one nested record, and a collection one list of records. What is absent contributes
nothing. The record collects the contributions in the order of the fields.
-/

namespace EntityMapping
namespace Converter

/-- The value under which a plain field is stored, by its attribute converter if it has one. -/
def storedValue (c : Converter) (f : FieldMapping) (v : Value) : Conversion Value :=
  match f.converter with
  | some ref => do .lift ((← c.resolve ref).toRecord v)
  | none => pure v

/-- What a field of an object contributes. `write` makes the records of the objects inside. -/
def writeField (c : Converter) (f : FieldMapping) (o : Object)
    (write : TypeName → (p : Object) → sizeOf p < sizeOf o → Conversion Record) :
    Conversion (List (String × Value)) :=
  match h : f.read o with
  | none => pure []
  | some (.scalar t x) => do return [(f.name, ← c.storedValue f (t.encode x))]
  | some (.object p) =>
    have hp : sizeOf p < sizeOf o := by
      have := FieldMapping.sizeOf_lt_of_read h
      simp only [Datum.object.sizeOf_spec] at this
      omega
    match f.shape with
    | .embedded u => do return (← write u p hp).fields
    | .entity u => do return [(f.name, .record (← write u p hp))]
    | _ => pure []
  | some (.collection _ item items) => do
    let _ ← c.entity item
    let records ← items.attach.mapM fun ⟨p, hp⟩ => write item p (by
      have := FieldMapping.sizeOf_lt_of_read h
      have := List.sizeOf_lt_of_mem hp
      simp only [Datum.collection.sizeOf_spec] at *
      omega)
    return [(f.name, .records records)]

/-- The record of an object, as one of the given type. -/
def write (c : Converter) (type : TypeName) (o : Object) : Conversion Record := do
  let t ← c.entity type
  if t.isInstance o then
    let parts ← t.fields.mapM fun f => c.writeField f o fun u p _ => write c u p
    return .collect t.name parts.flatten
  else .fail (.typeMismatch (.wrongInstance t.typeName))
termination_by sizeOf o

end Converter
end EntityMapping
