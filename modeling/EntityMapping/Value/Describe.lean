import EntityMapping.Number.Layout
import EntityMapping.Text.Quoted
import EntityMapping.Text.Structured
import EntityMapping.Value

/-!
# Values described

The texts that show of a value or a record all there is to it: its kind, and what it holds. Unlike in the
texts for people, texts are quoted and numbers with and without a fraction look different.
-/

namespace EntityMapping

mutual

/-- A value, with its kind. -/
def Value.describe : Value → String
  | .text s => wrapped "Text" (quoted s)
  | .integer n => wrapped "Integer" (integerText n.toInt)
  | .float x => wrapped "Float" (floatText .double x)
  | .boolean b => wrapped "Boolean" (boolText b)
  | .timestamp t => wrapped "Timestamp" t.wireText
  | .date d => wrapped "Date" d.text
  | .uuid u => wrapped "Uuid" u.text
  | .binary bytes => wrapped "Binary" (bracketed (bytes.map fun b => naturalText b.toNat))
  | .array items => wrapped "Array" (bracketed (describeItems items))
  | .record r => wrapped "Record" (describeRecord r)
  | .records rs => wrapped "Records" (bracketed (describeRecords rs))

/-- Values, each with its kind. -/
def describeItems : List Value → List String
  | [] => []
  | v :: vs => v.describe :: describeItems vs

/-- A record. -/
def describeRecord : RecordOf Value → String
  | ⟨name, fields⟩ =>
    braced "Record" [("name", quoted name), ("fields", bracketed (describeFields fields))]

/-- Records. -/
def describeRecords : List (RecordOf Value) → List String
  | [] => []
  | r :: rs => describeRecord r :: describeRecords rs

/-- The fields of a record. -/
def describeFields : List (String × Value) → List String
  | [] => []
  | (name, v) :: fs =>
    braced "RecordField" [("name", quoted name), ("value", v.describe)] :: describeFields fs

end

end EntityMapping
