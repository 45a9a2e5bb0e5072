import EntityMapping.Config
import EntityMapping.Template

/-!
# Mappers

A mapper puts everything together: from a configuration and the mapped types, with further suppliers, attribute
converters, observers and a validator, it makes the workflows and templates that share them.
-/

namespace EntityMapping

/-- A configured mapping. -/
structure Mapper extends Mapping where
  config : Config

namespace Mapper

/-- The mapper of a configuration, with the standard suppliers and nothing else but a validator. -/
def ofConfig (S : Schema) (config : Config) (validator : Validator) : Mapper where
  converter := { Converter.ofSchema S with strict := config.strictEmbeddedNulls }
  observers := []
  validator := validator
  config := config

/-- Registers a supplier; it goes before those that are there for what it accepts. -/
def supplier (m : Mapper) (s : Supplier) : Mapper :=
  { m with converter := { m.converter with suppliers := m.converter.suppliers.register s } }

/-- Registers a configured attribute converter. -/
def attributeConverter (m : Mapper) (name : String) (k : AttributeConverter) : Mapper :=
  { m with converter := { m.converter with attributes := m.converter.attributes.register name k } }

/-- Registers an observer. -/
def observer (m : Mapper) (o : Observer) : Mapper := { m with observers := m.observers ++ [o] }

/-- Keeps the attribute converters that a conversion asked for. -/
def remember {α : Type} (m : Mapper) (x : Conversion α) : Mapper :=
  { m with converter := m.converter.remember x }

/-- Storage for entities over some storage for documents. -/
def template {σ : Type} (m : Mapper) (manager : DocumentManager σ) : Template σ := ⟨m.toMapping, manager⟩

/-- Storage for entities over storage for documents whose answers may take their time. -/
def asyncTemplate {σ : Type} (m : Mapper) (manager : AsyncDocumentManager σ) : AsyncTemplate σ :=
  ⟨m.toMapping, manager⟩

/-- The template over a store in memory that is set up by the settings, with the store. The provider must be the
one for memory. -/
def memoryTemplate (m : Mapper) : Except MapError (Template Store × Store) :=
  if m.config.provider = "memory" then do
    return (m.template Store.manager, ← Store.ofSettings m.config.settings)
  else .error (.invalidArgument (.noMemory m.config.provider))

end Mapper
end EntityMapping
