import EntityMapping.Number.Reading
import EntityMapping.Value.Json

/-!
# Settings

Texts under keys, for storage providers. Settings are held in the order of their keys. A setting can be read as a
number or a truth value; it is an error if it is there and is none.
-/

namespace EntityMapping

/-- Settings in the order of their keys. -/
structure Settings where
  entries : List (String × String)
  deriving DecidableEq, Repr

namespace Settings

def empty : Settings := ⟨[]⟩

/-- Puts an entry into a list in the order of keys, in the place of an entry of the same key. -/
def insertEntry (key value : String) : List (String × String) → List (String × String)
  | [] => [(key, value)]
  | e :: es =>
    if key < e.1 then (key, value) :: e :: es
    else if key = e.1 then (key, value) :: es
    else e :: insertEntry key value es

def insert (s : Settings) (key value : String) : Settings := ⟨insertEntry key value s.entries⟩

def get? (s : Settings) (key : String) : Option String := Fields.get? key s.entries

def getOr (s : Settings) (key default : String) : String := (s.get? key).getD default

def size (s : Settings) : Nat := s.entries.length

def isEmpty (s : Settings) : Bool := s.entries.isEmpty

/-- A setting read in some way; `none` if it is not there. -/
def getParsed {ε α : Type} (s : Settings) (key : String) (read : String → Except ε α)
    (reason : ε → String) : Except MapError (Option α) :=
  match s.get? key with
  | none => .ok none
  | some text =>
    match read text with
    | .ok a => .ok (some a)
    | .error e => .error (.invalidArgument (.setting key (reason e)))

def getInt64 (s : Settings) (key : String) : Except MapError (Option Int64) :=
  s.getParsed key readInt64 IntegerFault.message

def getUInt64 (s : Settings) (key : String) : Except MapError (Option UInt64) :=
  s.getParsed key readUInt64 IntegerFault.message

def getDouble (s : Settings) (key : String) : Except MapError (Option Float) :=
  s.getParsed key readDouble DoubleFault.message

/-- Reads one of the two words of truth. -/
def readBool : String → Except Unit Bool
  | "true" => .ok true
  | "false" => .ok false
  | _ => .error ()

def getBool (s : Settings) (key : String) : Except MapError (Option Bool) :=
  s.getParsed key readBool fun _ => "provided string was not \x60true\x60 or \x60false\x60"

def toJson (s : Settings) : Json := .fields (s.entries.map fun e => (e.1, .text e.2))

/-- Reads settings from an object, which opens a bracket. Of a repeated key the last value counts. -/
def ofJson? : Nat → Json → Option Settings
  | _ + 1, .object members =>
    members.foldlM (fun s m => do return s.insert (← m.1) (← m.2.text?)) empty
  | _, _ => none

end Settings
end EntityMapping
