import EntityMapping.Schema.EntityType
import EntityMapping.Text.Quoted
import EntityMapping.Text.Structured

/-!
# Descriptions as text

Entity types, fields, converters and constructors as texts that show all there is to them.
-/

namespace EntityMapping

/-- The name of a class of members in a description. -/
def MappingKind.label : MappingKind → String
  | default => "Default"
  | embedded => "Embedded"
  | entity => "Entity"
  | collection => "Collection"

def ConverterRef.describe (ref : ConverterRef) : String := wrapped "ConverterRef" (quoted ref.name)

def FieldMapping.describe (f : FieldMapping) : String :=
  braced "FieldMapping"
    [("name", quoted f.name), ("type", quoted f.type.text), ("mapping_type", f.shape.kind.label),
     ("id", boolText f.isId), ("converter", optionText (f.converter.map ConverterRef.describe))]

def Constructor.describe (k : Constructor) : String :=
  braced "ConstructorDescriptor"
    [("signature", quoted k.signature), ("parameters", bracketed (k.parameters.map quoted))]

def EntityType.describe (t : EntityType) : String :=
  braced "EntityMetadata"
    [("name", quoted t.name), ("type", quoted t.typeName), ("embeddable", boolText t.embeddable),
     ("fields", bracketed (t.fields.map FieldMapping.describe)),
     ("constructor", optionText (t.constructor?.map Constructor.describe))]

def ConstructorCall.describe (call : ConstructorCall) : String :=
  braced "ConstructorBuilder"
    [("constructor", quoted call.constructor.signature),
     ("arguments", naturalText call.arguments.length)]

end EntityMapping
