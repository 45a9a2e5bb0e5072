import EntityMapping.Number.Integer
import EntityMapping.Value.Display

/-!
# Errors

Everything that can go wrong between an entity and its record, as causes. The wording of every cause is
in one place, `MapError.message`, together with the functions that it calls for the details.
-/

namespace EntityMapping

/-- One failed constraint of an entity. -/
structure Violation where
  propertyPath : String
  message : String
  root : String
  deriving DecidableEq, Repr, Inhabited

/-- The text of a violation. -/
def Violation.text (v : Violation) : String :=
  "ConstraintViolation\x7bpropertyPath=" ++ v.propertyPath ++ ", message='" ++ v.message ++
    "', root=" ++ v.root ++ "\x7d"

/-- Why a value does not fit the place it is put in. -/
inductive Mismatch where
  /-- A value of another kind, or out of range. -/
  | expected (wanted : String) (found : Value)
  /-- A text that does not read as a timestamp, date or identifier. -/
  | unreadable (wanted : String) (text : String)
  /-- The value of a field does not decode. -/
  | inField (field : String) (cause : Mismatch)
  /-- The value of a field is no record, or no list of records. -/
  | notNested (field wanted : String) (found : Value)
  /-- Something of another type was given for a field. -/
  | wrongType (field wanted : String)
  /-- The object to be written to is of another type. -/
  | wrongTarget (wanted : String)
  /-- The object to be read is of another type. -/
  | wrongInstance (wanted : String)
  /-- A cause that a caller words. -/
  | other (text : String)

/-- Why an argument is refused. -/
inductive ArgumentFault where
  | manyIds (entity : String) (count : Nat)
  | repeatedName (entity name : String)
  | noConstructor (entity : String)
  | unmappedParameter (signature parameter : String)
  | argumentCount (wanted given : Nat)
  | unconsumed (count : Nat)
  | exhausted
  | notConstructed (entity : String)
  | setting (key reason : String)
  | emptyProvider
  | noMemory (provider : String)
  | pageNumber
  | pageSize
  | pageRange (page size : UInt64)
  | limitRange (first last : UInt64)
  | other (text : String)
  deriving DecidableEq

/-- Why storage refuses a record. -/
inductive StorageFault where
  | alreadyExists (entity idField : String) (id : Value)
  | withoutId (entity idField : String)
  | notFound (entity idField : String) (id : Value)
  | other (text : String)

/-- Why a repository call has no answer. -/
inductive QueryFault where
  | pageWithoutRequest (method : String)
  | wrongShape (wanted found : String)
  | other (text : String)
  deriving DecidableEq

/-- What can go wrong in mapping. -/
inductive MapError where
  | nullArgument (what : String)
  | validationFailed (message : String) (violations : List Violation)
  /-- A constructor failed, for a reason of the mapping or with a text of its own. -/
  | construction (constructor : String) (cause : MapError ⊕ String)
  | nonUniqueResult (method : String)
  | typeMismatch (why : Mismatch)
  | missingArgument (name : String)
  | unknownEntity (name : String)
  | idNotFound (entity : String)
  | unsupportedCollection (kind : String)
  | dynamicQuery (why : QueryFault)
  | invalidArgument (why : ArgumentFault)
  | storage (why : StorageFault)
  | serialization
  /-- No error that a caller is told: the call breaks off, because a comparison does not order what it should sort. -/
  | unsortable

def Mismatch.message : Mismatch → String
  | expected wanted found => s!"expected {wanted}, got {found.kindName} ({found.display})"
  | unreadable wanted text => s!"Invalid {wanted}: {text}"
  | inField field cause => s!"field '{field}': Type mismatch: {cause.message}"
  | notNested field wanted found => s!"field '{field}' expects {wanted}, got {found.kindName}"
  | wrongType field wanted => s!"value for field '{field}' is not a {wanted}"
  | wrongTarget wanted => s!"target instance is not a {wanted}"
  | wrongInstance wanted => s!"value is not an instance of {wanted}"
  | other text => text

def ArgumentFault.message : ArgumentFault → String
  | manyIds entity count =>
    s!"Entity '{entity}' declares {naturalText count} id fields, at most one is allowed"
  | repeatedName entity name => s!"Entity '{entity}' maps '{name}' more than once"
  | noConstructor entity => s!"Entity '{entity}' has neither a default nor a mapped constructor"
  | unmappedParameter signature parameter =>
    s!"Constructor {signature} takes unmapped field '{parameter}'"
  | argumentCount wanted given =>
    s!"expected {naturalText wanted} arguments, got {naturalText given}"
  | unconsumed count => s!"{naturalText count} arguments were not consumed"
  | exhausted => "constructor asked for more arguments than it declares"
  | notConstructed entity => s!"Entity '{entity}' is not built through a constructor"
  | setting key reason => s!"setting '{key}': {reason}"
  | emptyProvider => "provider must not be empty"
  | noMemory provider => s!"provider '{provider}' has no in-memory document manager"
  | pageNumber => "page number starts at 1"
  | pageSize => "page size must be greater than zero"
  | pageRange page size =>
    s!"page {naturalText page.toNat} of size {naturalText size.toNat} is out of range"
  | limitRange first last =>
    s!"invalid limit range {naturalText first.toNat}..={naturalText last.toNat}"
  | other text => text

def StorageFault.message : StorageFault → String
  | alreadyExists entity idField id => s!"{entity} with {idField} {id.display} already exists"
  | withoutId entity idField => s!"{entity} has no {idField} to update by"
  | notFound entity idField id => s!"{entity} with {idField} {id.display} not found"
  | other text => text

def QueryFault.message : QueryFault → String
  | pageWithoutRequest method => s!"{method} returns a page but no page request was passed"
  | wrongShape wanted found => s!"expected {wanted}, got a {found} result"
  | other text => text

namespace MapError

/-- The text of an error. -/
def message : MapError → String
  | nullArgument what => s!"{what} is required"
  | validationFailed message _ => message
  | construction constructor _ =>
    "There is an issue to create a new instance of this class using this constructor: " ++
      constructor
  | nonUniqueResult method => s!"No unique result to the method: {method}"
  | typeMismatch why => s!"Type mismatch: {why.message}"
  | missingArgument name => s!"Missing constructor argument '{name}'"
  | unknownEntity name => s!"Entity '{name}' is not mapped"
  | idNotFound entity => s!"Entity '{entity}' has no id value"
  | unsupportedCollection kind => s!"No collection supplier registered for {kind}"
  | dynamicQuery why => s!"Dynamic query error: {why.message}"
  | invalidArgument why => s!"Invalid argument: {why.message}"
  | storage why => s!"Storage error: {why.message}"
  | serialization => "Serialization error"
  | unsortable => "the comparison does not order what is to be sorted"

/-- The error behind an error, if there is one. -/
def cause? : MapError → Option (MapError ⊕ String)
  | construction _ cause => some cause
  | _ => none

def isNullArgument : MapError → Bool
  | nullArgument _ => true
  | _ => false

def isValidationFailed : MapError → Bool
  | validationFailed .. => true
  | _ => false

def isConstruction : MapError → Bool
  | construction .. => true
  | _ => false

def isNonUniqueResult : MapError → Bool
  | nonUniqueResult _ => true
  | _ => false

end MapError
end EntityMapping
