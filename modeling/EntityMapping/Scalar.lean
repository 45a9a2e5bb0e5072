import EntityMapping.Calendar.Reading
import EntityMapping.Error

/-!
# Scalar types

The types of plain fields, what they hold, and how that is stored as a value and read back. Lists of scalars
count as scalars here: they are stored as arrays.

Reading an integer type never changes the number: a value is accepted when it is that number exactly and
the type has room for it. Natural numbers beyond the signed 64-bit range are stored as decimal text.
-/

namespace EntityMapping

/-- The type of a plain field. -/
inductive ScalarType where
  | text
  | int64
  | int32
  | uint32
  | uint64
  | double
  | single
  | boolean
  | timestamp
  | date
  | uuid
  | value
  | list (item : ScalarType)
  deriving DecidableEq, Repr, Inhabited

namespace ScalarType

/-- What a field of the type holds. Single-precision numbers are held as the doubles that equal them. -/
abbrev Carrier : ScalarType → Type
  | text => String
  | int64 => Int64
  | int32 => Int32
  | uint32 => UInt32
  | uint64 => UInt64
  | double => Float
  | single => Float
  | boolean => Bool
  | timestamp => Timestamp
  | date => Date
  | uuid => Uuid
  | value => Value
  | list item => List item.Carrier

/-- Whether the type is a list of scalars. -/
def isList : ScalarType → Bool
  | list _ => true
  | _ => false

/-- What a field of the type starts with: nothing, zero, or the beginning of 1970. -/
def default : (t : ScalarType) → t.Carrier
  | text => ""
  | int64 => 0
  | int32 => 0
  | uint32 => 0
  | uint64 => 0
  | double => 0.0
  | single => 0.0
  | boolean => false
  | timestamp => Timestamp.epoch
  | date => Date.epoch
  | uuid => ⟨0⟩
  | value => .text ""
  | list _ => []

/-- Stores a natural number: as an integer if it is one of 64 bits with sign, and as text otherwise. -/
def encodeNatural (n : UInt64) : Value :=
  if n.toNat < 2 ^ 63 then .integer (Int64.ofNat n.toNat) else .text (naturalText n.toNat)

/-- The value under which a field of the type is stored. -/
def encode : (t : ScalarType) → t.Carrier → Value
  | text, s => .text s
  | int64, n => .integer n
  | int32, n => .integer n.toInt64
  | uint32, n => .integer (Int64.ofNat n.toNat)
  | uint64, n => encodeNatural n
  | double, x => .float x
  | single, x => .float x
  | boolean, b => .boolean b
  | timestamp, t => .timestamp t
  | date, d => .date d
  | uuid, u => .uuid u
  | value, v => v
  | list item, xs => .array (xs.map item.encode)

/-- Reads an integer type with the given bounds: the value must be one of its numbers. -/
def decodeInteger {α : Type} (wanted : String) (low high : Int) (make : Int → α) (v : Value) :
    Except Mismatch α :=
  match v.asInt64? with
  | some n => if low ≤ n.toInt ∧ n.toInt ≤ high then .ok (make n.toInt) else .error (.expected wanted v)
  | none => .error (.expected wanted v)

/-- Reads a natural number of 64 bits, which may also be stored as text. -/
def decodeNatural (v : Value) : Except Mismatch UInt64 :=
  match v with
  | .text s =>
    match readUInt64 s with
    | .ok n => .ok n
    | .error _ => .error (.expected "INTEGER (u64)" v)
  | v => decodeInteger "INTEGER (u64)" 0 (2 ^ 64 - 1) (fun n => UInt64.ofNat n.toNat) v

/-- What a value gives if it has one of the kinds that a type is stored as. -/
def decodeKind {α : Type} (wanted : String) (found : Option α) (v : Value) : Except Mismatch α :=
  match found with
  | some x => .ok x
  | none => .error (.expected wanted v)

/-- Reads a type that may be stored as text in a notation of its own. -/
def decodeText {α : Type} (wanted : String) (text : String) (found : Option α) : Except Mismatch α :=
  match found with
  | some x => .ok x
  | none => .error (.unreadable wanted text)

/-- Reads a value back as a field of the type. -/
def decode : (t : ScalarType) → Value → Except Mismatch t.Carrier
  | text, v => decodeKind "TEXT" v.asText? v
  | int64, v => decodeKind "INTEGER" v.asInt64? v
  | int32, v => decodeInteger "INTEGER (i32)" (-2 ^ 31) (2 ^ 31 - 1) Int32.ofInt v
  | uint32, v => decodeInteger "INTEGER (u32)" 0 (2 ^ 32 - 1) (fun n => UInt32.ofNat n.toNat) v
  | uint64, v => decodeNatural v
  | double, v => decodeKind "FLOAT" v.asDouble? v
  | single, v => decodeKind "FLOAT" (v.asDouble?.map toSinglePrecision) v
  | boolean, v => decodeKind "BOOLEAN" v.asBoolean? v
  | timestamp, .timestamp t => .ok t
  | timestamp, .text s => decodeText "Timestamp" s (Timestamp.read? s)
  | timestamp, v => .error (.expected "TIMESTAMP" v)
  | date, .date d => .ok d
  | date, .text s => decodeText "Date" s (Date.read? s)
  | date, v => .error (.expected "DATE" v)
  | uuid, .uuid u => .ok u
  | uuid, .text s => decodeText "UUID" s (Uuid.read? s)
  | uuid, v => .error (.expected "UUID" v)
  | value, v => .ok v
  | list item, .array vs => vs.mapM item.decode
  | list _, v => .error (.expected "ARRAY" v)

end ScalarType
end EntityMapping
