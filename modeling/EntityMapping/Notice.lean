import EntityMapping.Attribute
import EntityMapping.Traced

/-!
# Notices

What a conversion lets others know: which attribute converters it asked for, and which constructors it called.
A conversion is a traced result with these notices.
-/

namespace EntityMapping

/-- A constructor is about to be called. A parameter is provided if it has an argument that is not empty. -/
structure ConstructorEvent where
  entity : String
  signature : String
  parameters : List String
  provided : List Bool
  deriving DecidableEq, Repr

/-- What a conversion lets others know. -/
inductive Notice where
  | resolved (ref : ConverterRef)
  | constructing (event : ConstructorEvent)

/-- The result of a conversion, with its notices. -/
abbrev Conversion (α : Type) := Traced Notice MapError α

/-- The constructor event of a notice. -/
def Notice.event? : Notice → Option ConstructorEvent
  | resolved _ => none
  | constructing event => some event

/-- The constructor events of a conversion, in order. -/
def Traced.events {α : Type} (x : Conversion α) : List ConstructorEvent := x.log.filterMap Notice.event?

/-- Keeps the attribute converters that were asked for. -/
def Attributes.rememberAll (a : Attributes) (notices : List Notice) : Attributes :=
  notices.foldl (fun a notice =>
    match notice with
    | .resolved ref => a.remember ref
    | .constructing _ => a) a

end EntityMapping
