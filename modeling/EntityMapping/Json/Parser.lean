import EntityMapping.Json.Token

/-!
# Reading JSON

The tokens of a text are read from left to right by a machine whose state is the list of the arrays and objects
that are open, innermost first, and what may come next. There is no limit on nesting here; who looks into a
tree sets it.
-/

namespace EntityMapping
namespace Json

/-- An array or object that is open, with what it holds so far in reverse; an object also has the key whose
value is to come. -/
inductive Frame where
  | array (items : List Json)
  | object (members : List (Option String × Json)) (key : Option String)

/-- What the reader waits for. -/
inductive Reader where
  /-- A value. -/
  | value (frames : List Frame)
  /-- The first item of an array, or its end. -/
  | firstItem (frames : List Frame)
  /-- A comma or the end of an array. -/
  | afterItem (items : List Json) (frames : List Frame)
  /-- The first key of an object, or its end. -/
  | firstMember (frames : List Frame)
  /-- A key. -/
  | key (members : List (Option String × Json)) (frames : List Frame)
  /-- The colon behind a key. -/
  | colon (members : List (Option String × Json)) (key : Option String) (frames : List Frame)
  /-- A comma or the end of an object. -/
  | afterMember (members : List (Option String × Json)) (frames : List Frame)
  /-- Nothing more. -/
  | finished (j : Json)

namespace Reader

/-- The state once a value is complete. -/
def deliver (j : Json) : List Frame → Reader
  | [] => .finished j
  | .array items :: frames => .afterItem (j :: items) frames
  | .object members name :: frames => .afterMember ((name, j) :: members) frames

/-- Reads a token where a value is expected. -/
def beginValue (frames : List Frame) : Token → Option Reader
  | .null => some (deliver .null frames)
  | .bool b => some (deliver (.bool b) frames)
  | .number n => some (deliver (.number n) frames)
  | .string s => some (deliver (.string s) frames)
  | .openArray => some (.firstItem frames)
  | .openObject => some (.firstMember frames)
  | _ => none

/-- Reads one token. -/
def step : Reader → Token → Option Reader
  | .value frames, t => beginValue frames t
  | .firstItem frames, .closeArray => some (deliver (.array []) frames)
  | .firstItem frames, t => beginValue (.array [] :: frames) t
  | .afterItem items frames, .comma => some (.value (.array items :: frames))
  | .afterItem items frames, .closeArray => some (deliver (.array items.reverse) frames)
  | .firstMember frames, .closeObject => some (deliver (.object []) frames)
  | .firstMember frames, .string name => some (.colon [] name frames)
  | .key members frames, .string name => some (.colon members name frames)
  | .colon members name frames, .colon => some (.value (.object members name :: frames))
  | .afterMember members frames, .comma => some (.key members frames)
  | .afterMember members frames, .closeObject => some (deliver (.object members.reverse) frames)
  | _, _ => none

/-- The tree that has been read, if it is complete. -/
def result? : Reader → Option Json
  | .finished j => some j
  | _ => none

/-- Reads tokens. -/
def run : Reader → List Token → Option Reader
  | r, [] => some r
  | r, t :: ts => (r.step t).bind fun r => r.run ts

end Reader

/-- Reads a JSON text. -/
def parse? (text : String) : Option Json :=
  (tokens? text.toList).bind fun ts => ((Reader.value []).run ts).bind Reader.result?

end Json
end EntityMapping
