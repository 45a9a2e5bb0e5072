import EntityMapping.Calendar.Reading
import EntityMapping.Error
import EntityMapping.Json.Parser
import EntityMapping.Json.Printer
import EntityMapping.Value

/-!
# Values and records as JSON

A value is an object with one member, whose key names the kind of the value. A record is an object with its
name and the list of its fields, each of which is an object with a name and a value.

Reading allows a limited number of brackets to be open at once. The limit is handed down as the number of
brackets that may still be opened, which also bounds the recursion.
-/

namespace EntityMapping

/-- How many brackets may be open at once in a text that is read. -/
def nestingLimit : Nat := 127

/-! ## Writing -/

mutual

/-- A value as JSON. -/
def Value.toJson : Value → Json
  | .text s => .fields [("Text", .text s)]
  | .integer n => .fields [("Integer", .int n.toInt)]
  | .float x => .fields [("Float", .double x)]
  | .boolean b => .fields [("Boolean", .bool b)]
  | .timestamp t => .fields [("Timestamp", .text t.wireText)]
  | .date d => .fields [("Date", .text d.text)]
  | .uuid u => .fields [("Uuid", .text u.text)]
  | .binary bytes => .fields [("Binary", .array (bytes.map fun b => .int b.toNat))]
  | .array items => .fields [("Array", .array (itemsToJson items))]
  | .record r => .fields [("Record", recordToJson r)]
  | .records rs => .fields [("Records", .array (recordsToJson rs))]

/-- Values as JSON. -/
def itemsToJson : List Value → List Json
  | [] => []
  | v :: vs => v.toJson :: itemsToJson vs

/-- A record as JSON. -/
def recordToJson : RecordOf Value → Json
  | ⟨name, fields⟩ => .fields [("name", .text name), ("fields", .array (fieldsToJson fields))]

/-- Records as JSON. -/
def recordsToJson : List (RecordOf Value) → List Json
  | [] => []
  | r :: rs => recordToJson r :: recordsToJson rs

/-- Fields as JSON. -/
def fieldsToJson : List (String × Value) → List Json
  | [] => []
  | (name, v) :: fs => .fields [("name", .text name), ("value", v.toJson)] :: fieldsToJson fs

end

/-- The JSON text of a record. -/
def RecordOf.toJson (r : Record) : String := (recordToJson r).render

/-! ## Reading -/

/-- Reads the items of an array, which opens one of the brackets that are left. -/
def Json.items? {α : Type} (read : Nat → Json → Option α) : Nat → Json → Option (List α)
  | limit + 1, .array items => items.mapM (read limit)
  | _, _ => none

/-- The kind and content of a value: the one member of an object. -/
def Json.tagged? : Json → Option (String × Json)
  | .object [(some tag, content)] => some (tag, content)
  | _ => none

/-- Reads a value that holds no other values. -/
def scalarOfJson? (limit : Nat) (tag : String) (content : Json) : Option Value :=
  match tag with
  | "Text" => content.text?.map .text
  | "Integer" => content.int64?.map .integer
  | "Float" => content.double?.map .float
  | "Boolean" => content.bool?.map .boolean
  | "Timestamp" => (content.text?.bind Timestamp.readWire?).map .timestamp
  | "Date" => (content.text?.bind Date.readWire?).map .date
  | "Uuid" => (content.text?.bind Uuid.read?).map .uuid
  | "Binary" => (Json.items? (fun _ => Json.byte?) limit content).map .binary
  | _ => none

mutual

/-- Reads a value, opening at most `limit` brackets. -/
def valueOfJson? : Nat → Json → Option Value
  | 0, _ => none
  | limit + 1, j =>
    match j.tagged? with
    | none => none
    | some (tag, content) =>
      if tag = "Array" then (itemsOfJson? limit content).map .array
      else if tag = "Record" then (recordOfJson? limit content).map .record
      else if tag = "Records" then (recordsOfJson? limit content).map .records
      else scalarOfJson? limit tag content

/-- Reads a list of values. -/
def itemsOfJson? : Nat → Json → Option (List Value)
  | limit + 1, .array items => items.mapM fun j => valueOfJson? limit j
  | _, _ => none

/-- Reads a record. -/
def recordOfJson? : Nat → Json → Option Record
  | 0, _ => none
  | limit + 1, j =>
    match j.parts? ["name", "fields"] with
    | some [some name, some fields] =>
      match name.text?, fieldsOfJson? limit fields with
      | some name, some fields => some ⟨name, fields⟩
      | _, _ => none
    | _ => none

/-- Reads a list of records. -/
def recordsOfJson? : Nat → Json → Option (List Record)
  | limit + 1, .array items => items.mapM fun j => recordOfJson? limit j
  | _, _ => none

/-- Reads the fields of a record. -/
def fieldsOfJson? : Nat → Json → Option (List (String × Value))
  | limit + 1, .array items => items.mapM fun j => fieldOfJson? limit j
  | _, _ => none

/-- Reads a field. -/
def fieldOfJson? : Nat → Json → Option (String × Value)
  | 0, _ => none
  | limit + 1, j =>
    match j.parts? ["name", "value"] with
    | some [some name, some v] =>
      match name.text?, valueOfJson? limit v with
      | some name, some v => some (name, v)
      | _, _ => none
    | _ => none

end

/-- Reads a JSON text with the given reader of trees. -/
def readJson {α : Type} (read : Nat → Json → Option α) (text : String) : Except MapError α :=
  match (Json.parse? text).bind (read nestingLimit) with
  | some x => .ok x
  | none => .error .serialization

/-- Reads the JSON text of a record. -/
def RecordOf.ofJson (text : String) : Except MapError Record := readJson recordOfJson? text

end EntityMapping
