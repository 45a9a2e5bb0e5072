import EntityMapping.Converter.Reading
import EntityMapping.Converter.Writing
import EntityMapping.Value.Json

/-!
# Keys and values

The form of entities in key-value storage: the value of the id field is the key, and the whole record is
the value. A record that came back without its id field gets it from the key.
-/

namespace EntityMapping

/-- A key with the record that is stored under it. -/
structure KeyValue where
  key : Value
  value : Record

namespace KeyValue

/-- A pair as JSON. -/
def toJson (p : KeyValue) : String :=
  (Json.fields [("key", p.key.toJson), ("value", recordToJson p.value)]).render

/-- Reads a pair, opening at most `limit` brackets. -/
def ofJson? : Nat → Json → Option KeyValue
  | limit + 1, j =>
    match j.parts? ["key", "value"] with
    | some [some key, some value] =>
      match valueOfJson? limit key, recordOfJson? limit value with
      | some key, some value => some ⟨key, value⟩
      | _, _ => none
    | _ => none
  | 0, _ => none

/-- Reads the JSON text of a pair. -/
def ofJson (text : String) : Except MapError KeyValue := readJson ofJson? text

end KeyValue

namespace Converter

/-- The pair of an object. Types without an id field have none, and neither have objects whose id is absent. -/
def toKeyValue (c : Converter) (type : TypeName) (o : Object) : Conversion KeyValue := do
  let t ← c.entity type
  match t.id? with
  | none => .fail (.idNotFound t.name)
  | some id =>
    let r ← c.write type o
    match r.get? id.name with
    | some key => return ⟨key, r⟩
    | none => .fail (.idNotFound t.name)

/-- The record of a pair, with the id field. -/
def recordOfKeyValue (t : EntityType) (p : KeyValue) : Record :=
  match t.id? with
  | some id => if p.value.contains id.name then p.value else p.value.add id.name p.key
  | none => p.value

/-- The object that a pair stands for. -/
def ofKeyValue (c : Converter) (type : TypeName) (p : KeyValue) : Conversion Object := do
  let t ← c.entity type
  c.read type (recordOfKeyValue t p)

end Converter
end EntityMapping
