import EntityMapping.Collection
import EntityMapping.Notice
import EntityMapping.Schema

/-!
# Converters

Everything that a conversion between objects and records depends on: the mapped types, the attribute converters,
the suppliers of collections, and what to do with embedded objects of which nothing is stored. In strict mode
such an object is left out; otherwise it is built from nothing.
-/

namespace EntityMapping

/-- The setting of a conversion between objects and records. -/
structure Converter where
  schema : Schema
  attributes : Attributes
  suppliers : Suppliers
  strict : Bool

namespace Converter

/-- A strict converter with the standard suppliers. -/
def ofSchema (S : Schema) : Converter := ⟨S, .empty, .standard, true⟩

/-- The entity type of a name. -/
def entity (c : Converter) (type : TypeName) : Conversion EntityType := .lift (c.schema.entity type)

/-- The instance that a reference to an attribute converter stands for. -/
def resolve (c : Converter) (ref : ConverterRef) : Conversion AttributeConverter :=
  ⟨[.resolved ref], .ok (c.attributes.resolve ref)⟩

/-- Keeps the attribute converters that a conversion asked for. -/
def remember {α : Type} (c : Converter) (x : Conversion α) : Converter :=
  { c with attributes := c.attributes.rememberAll x.log }

end Converter
end EntityMapping
