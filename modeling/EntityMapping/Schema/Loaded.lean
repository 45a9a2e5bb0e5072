import EntityMapping.Schema

/-!
# Loaded types

The entity types that have been asked for so far. Each is kept from the first time on, and can then be found by the
name of its records, too. A description that is not consistent is not kept.
-/

namespace EntityMapping

/-- The entity types that have been asked for so far. -/
structure LoadedTypes where
  types : List EntityType

namespace LoadedTypes

def empty : LoadedTypes := ⟨[]⟩

/-- The entity type of a name, if it has been asked for. -/
def find? (loaded : LoadedTypes) (type : TypeName) : Option EntityType :=
  loaded.types.find? fun t => t.typeName = type

/-- The entity type of a name, which is kept. -/
def get (S : Schema) (type : TypeName) (loaded : LoadedTypes) : Except MapError EntityType × LoadedTypes :=
  match loaded.find? type with
  | some t => (.ok t, loaded)
  | none =>
    match S.entity type with
    | .ok t => (.ok t, ⟨loaded.types ++ [t]⟩)
    | .error e => (.error e, loaded)

def isLoaded (loaded : LoadedTypes) (type : TypeName) : Bool := (loaded.find? type).isSome

/-- The entity type whose records have a name. -/
def findByName (loaded : LoadedTypes) (name : String) : Except MapError EntityType :=
  match loaded.types.find? fun t => t.name = name with
  | some t => .ok t
  | none => .error (.unknownEntity name)

end LoadedTypes
end EntityMapping
