import EntityMapping.Error

/-!
# Attribute converters

A field may have its own way of being stored. A mapping names the attribute converter by a reference,
which can also make an instance; a registry holds the instances that were configured or made so far.
-/

namespace EntityMapping

/-- Turns the value of a field into the one that is stored, and back. -/
structure AttributeConverter where
  toRecord : Value → Except MapError Value
  toEntity : Value → Except MapError Value

/-- Names an attribute converter and makes instances of it. -/
structure ConverterRef where
  name : String
  fresh : AttributeConverter

/-- The instances of attribute converters, one under each name. -/
structure Attributes where
  instances : List (String × AttributeConverter)

namespace Attributes

def empty : Attributes := ⟨[]⟩

/-- Registers a configured instance, in the place of one that is there. -/
def register (a : Attributes) (name : String) (k : AttributeConverter) : Attributes :=
  ⟨Fields.add name k a.instances⟩

/-- The instance that a reference stands for: the registered one, or else a fresh one. -/
def resolve (a : Attributes) (ref : ConverterRef) : AttributeConverter :=
  (Fields.get? ref.name a.instances).getD ref.fresh

/-- Keeps the instance that a reference stands for. -/
def remember (a : Attributes) (ref : ConverterRef) : Attributes :=
  a.register ref.name (a.resolve ref)

/-- The number of instances. -/
def size (a : Attributes) : Nat := a.instances.length

end Attributes
end EntityMapping
