import EntityMapping.Number.Layout
import EntityMapping.Text.Structured
import EntityMapping.Value

/-!
# The text of values

How values and records are shown to people, in messages above all. Texts stand for themselves; lists are
put in square brackets and the fields of a record in braces.
-/

namespace EntityMapping

mutual

/-- The text of a value. -/
def Value.display : Value → String
  | .text s => s
  | .integer n => integerText n.toInt
  | .float x => doubleText x
  | .boolean b => boolText b
  | .timestamp t => t.text
  | .date d => d.text
  | .uuid u => u.text
  | .binary bytes => "<" ++ naturalText bytes.length ++ " bytes>"
  | .array items => bracketed (displayItems items)
  | .record r => displayRecord r
  | .records rs => bracketed (displayRecords rs)

/-- The texts of values. -/
def displayItems : List Value → List String
  | [] => []
  | v :: vs => v.display :: displayItems vs

/-- The text of a record: its name, and its fields in braces. -/
def displayRecord : RecordOf Value → String
  | ⟨name, fields⟩ => name ++ inBraces (displayFields fields)

/-- The texts of records. -/
def displayRecords : List (RecordOf Value) → List String
  | [] => []
  | r :: rs => displayRecord r :: displayRecords rs

/-- The texts of fields: name, equals sign, value. -/
def displayFields : List (String × Value) → List String
  | [] => []
  | (name, v) :: fs => (name ++ "=" ++ v.display) :: displayFields fs

end

end EntityMapping
