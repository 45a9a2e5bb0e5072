import EntityMapping.Json.Numeral

/-!
# JSON trees

A JSON text as a tree. Members keep their order and may repeat a key. A string is `none` when an escape in it
names half of a surrogate pair without the other half: such a string has no text, and is tolerated only
where nobody looks at it.
-/

namespace EntityMapping

/-- A JSON value. -/
inductive Json where
  | null
  | bool (b : Bool)
  | number (n : Json.Numeral)
  | string (s : Option String)
  | array (items : List Json)
  | object (members : List (Option String × Json))

namespace Json

/-- A string with the given text. -/
def text (s : String) : Json := .string (some s)

/-- An integer. -/
def int (n : Int) : Json := .number (.ofInt n)

/-- A double, of two equally near decimals the even one; what is no finite number is written as null. -/
def double (x : Float) : Json :=
  match DoubleText.ofFloat .double .toEven x with
  | .finite negative d => .number (.ofDecimal negative d)
  | _ => .null

/-- An object with the given members. -/
def fields (members : List (String × Json)) : Json :=
  .object (members.map fun m => (some m.1, m.2))

/-- The text of a string. -/
def text? : Json → Option String
  | .string s => s
  | _ => none

def bool? : Json → Option Bool
  | .bool b => some b
  | _ => none

/-- An integer of the given range. -/
def int? (low high : Int) : Json → Option Int
  | .number n => n.toInt?.bind fun k => if low ≤ k ∧ k ≤ high then some k else none
  | _ => none

def int64? (j : Json) : Option Int64 := (j.int? (-2 ^ 63) (2 ^ 63 - 1)).map Int64.ofInt

def uint64? (j : Json) : Option UInt64 :=
  (j.int? 0 (2 ^ 64 - 1)).map fun n => UInt64.ofNat n.toNat

def byte? (j : Json) : Option UInt8 := (j.int? 0 255).map fun n => UInt8.ofNat n.toNat

def double? : Json → Option Float
  | .number n => n.toDouble?
  | _ => none

/-- The value under a key, the first one if it is repeated. -/
def lookup? (name : String) : List (Option String × Json) → Option Json
  | [] => none
  | m :: ms => if m.1 = some name then some m.2 else lookup? name ms

/-- How often a key occurs. -/
def occurrences (name : String) (members : List (Option String × Json)) : Nat :=
  members.countP fun m => m.1 == some name

/-- The parts of a structure with the given names: from an object, in which unknown keys are ignored and a
known one stands at most once, or from an array of the parts in order. A part that is missing is
`none`. -/
def parts? (names : List String) : Json → Option (List (Option Json))
  | .object ms =>
    if ms.all (fun m => m.1.isSome) && names.all (fun name => occurrences name ms ≤ 1) then
      some (names.map fun name => lookup? name ms)
    else none
  | .array items =>
    if items.length ≤ names.length then
      some (items.map some ++ List.replicate (names.length - items.length) none)
    else none
  | _ => none

end Json
end EntityMapping
