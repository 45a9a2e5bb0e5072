import EntityMapping.Calendar.Timestamp
import EntityMapping.Number.Double
import EntityMapping.Record
import EntityMapping.Uuid

/-!
# Values

What a record holds under a name. Scalars and plain lists of values are the wire types of every storage;
a nested entity is a record, and a collection of mapped objects is a list of records.
-/

namespace EntityMapping

/-- A value stored under one field of a record. -/
inductive Value where
  | text (s : String)
  | integer (n : Int64)
  | float (x : Float)
  | boolean (b : Bool)
  | timestamp (t : Timestamp)
  | date (d : Date)
  | uuid (u : Uuid)
  | binary (bytes : List UInt8)
  | array (items : List Value)
  | record (r : RecordOf Value)
  | records (rs : List (RecordOf Value))

/-- A record of values. -/
abbrev Record := RecordOf Value

instance : Inhabited Value := ⟨.text ""⟩

namespace Value

/-- The name of the kind of a value, as messages show it. -/
def kindName : Value → String
  | text _ => "TEXT"
  | integer _ => "INTEGER"
  | float _ => "FLOAT"
  | boolean _ => "BOOLEAN"
  | timestamp _ => "TIMESTAMP"
  | date _ => "DATE"
  | uuid _ => "UUID"
  | binary _ => "BINARY"
  | array _ => "ARRAY"
  | record _ => "RECORD"
  | records _ => "RECORDS"

/-- Whether a value is no record and no list of records. -/
def isScalar : Value → Bool
  | record _ => false
  | records _ => false
  | _ => true

/-- The 64-bit integer that a number is exactly. -/
def asInt64? : Value → Option Int64
  | integer n => some n
  | float x => exactInt64? x
  | _ => none

/-- The double that a number is, or that is nearest to it. -/
def asDouble? : Value → Option Float
  | float x => some x
  | integer n => some (nearestDouble n)
  | _ => none

def asText? : Value → Option String
  | text s => some s
  | _ => none

def asBoolean? : Value → Option Bool
  | boolean b => some b
  | _ => none

def asRecord? : Value → Option Record
  | record r => some r
  | _ => none

def asRecords? : Value → Option (List Record)
  | records rs => some rs
  | _ => none

end Value

/-- A value found in a record is smaller than the record. -/
theorem sizeOf_lt_of_get? {r : Record} {name : String} {v : Value} (h : r.get? name = some v) :
    sizeOf v < sizeOf r := by
  have hmem := List.sizeOf_lt_of_mem (Fields.mem_of_get? h)
  cases r with
  | mk _ fields =>
    simp only [Prod.mk.sizeOf_spec, RecordOf.mk.sizeOf_spec] at hmem ⊢
    omega

end EntityMapping
