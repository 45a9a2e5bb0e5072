import EntityMapping.Notice
import EntityMapping.Schema.Field

/-!
# Construction

Some types are built by a constructor, which takes its arguments one after the other. An argument may be
empty; a constructor says for each one whether it must be there, may be missing, or has a default.

A call with the wrong number of arguments is refused before the constructor is reached. Everything that goes
wrong afterwards is reported under the signature of the constructor.
-/

namespace EntityMapping

/-- The arguments that are left for a constructor, with the names of their parameters. -/
abbrev Arguments := List (String × Option Datum)

/-- A computation that takes arguments. -/
abbrev Construction (α : Type) := StateT Arguments (Except MapError) α

namespace Construction

/-- Takes the next argument, whatever it is. -/
def next : Construction (String × Option Datum)
  | [] => .error (.invalidArgument .exhausted)
  | a :: rest => .ok (a, rest)

/-- Takes the next argument, which may be empty, but must otherwise be of the given type. -/
def takeOptional (type : FieldType) : Construction (Option Datum) := do
  let (name, argument) ← next
  match argument with
  | none => pure none
  | some d =>
    if d.fits type.shape then pure (some d)
    else throw (.typeMismatch (.wrongType name type.text))

/-- Takes the next argument, which must be of the given type. -/
def take (type : FieldType) : Construction Datum := do
  let (name, argument) ← next
  match argument with
  | none => throw (.missingArgument name)
  | some d =>
    if d.fits type.shape then pure d
    else throw (.typeMismatch (.wrongType name type.text))

/-- Takes the next argument, and the default if it is empty. -/
def takeOrDefault (type : FieldType) (default : Datum) : Construction Datum := do
  return (← takeOptional type).getD default

end Construction

/-- A constructor: how it is shown, the members it takes in order, and what it does with them. -/
structure Constructor where
  signature : String
  parameters : List String
  build : Construction Object

/-- How objects of a type come into being. -/
inductive Creation where
  /-- As a copy of an object that is always the same. -/
  | fresh (o : Object)
  /-- By a constructor. -/
  | constructed (k : Constructor)

/-- A constructor with the arguments collected for it so far. -/
structure ConstructorCall where
  /-- The record name of the type. -/
  entity : String
  constructor : Constructor
  arguments : List (Option Datum)

namespace ConstructorCall

/-- Adds an argument, or an empty one. -/
def add (call : ConstructorCall) (argument : Option Datum) : ConstructorCall :=
  { call with arguments := call.arguments ++ [argument] }

/-- What others are told about the call. -/
def event (call : ConstructorCall) : ConstructorEvent :=
  ⟨call.entity, call.constructor.signature, call.constructor.parameters,
    call.arguments.map Option.isSome⟩

/-- An error of the call, under the signature of the constructor. -/
def failure (call : ConstructorCall) (cause : MapError) : MapError :=
  .construction call.constructor.signature (.inl cause)

/-- What the constructor makes of the arguments. It must take all of them. -/
def result (call : ConstructorCall) : Except MapError Object :=
  match call.constructor.build (call.constructor.parameters.zip call.arguments) with
  | .error cause => .error (call.failure cause)
  | .ok (o, []) => .ok o
  | .ok (_, a :: rest) => .error (call.failure (.invalidArgument (.unconsumed (a :: rest).length)))

/-- Calls the constructor. -/
def invoke (call : ConstructorCall) : Conversion Object :=
  let wanted := call.constructor.parameters.length
  let given := call.arguments.length
  if given = wanted then ⟨[.constructing call.event], call.result⟩
  else .fail (call.failure (.invalidArgument (.argumentCount wanted given)))

end ConstructorCall
end EntityMapping
