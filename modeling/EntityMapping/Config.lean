import EntityMapping.Settings
import EntityMapping.Text.Blank

/-!
# Configuration

What a mapper is configured by: its own name, the storage provider with its settings, and what becomes of embedded
objects of which nothing is stored. In JSON any part may be left out; the provider must not be blank.
-/

namespace EntityMapping

/-- The configuration of a mapper. -/
structure Config where
  name : String
  provider : String
  settings : Settings
  strictEmbeddedNulls : Bool
  deriving DecidableEq, Repr

namespace Config

/-- What holds unless something else is said. -/
def default : Config := ⟨"recordmap", "memory", .empty, true⟩

/-- The configuration for a provider. -/
def ofProvider (provider : String) : Config := { default with provider }

/-- Adds a setting. -/
def setting (c : Config) (key value : String) : Config :=
  { c with settings := c.settings.insert key value }

def toJson (c : Config) : Json :=
  .fields [("name", .text c.name), ("provider", .text c.provider), ("settings", c.settings.toJson),
    ("strict_embedded_nulls", .bool c.strictEmbeddedNulls)]

/-- A part that may have been left out. -/
def part? {α : Type} (default : α) (read : Json → Option α) : Option Json → Option α
  | none => some default
  | some j => read j

/-- Reads a configuration, opening at most `limit` brackets. -/
def ofJson? : Nat → Json → Option Config
  | limit + 1, j =>
    match j.parts? ["name", "provider", "settings", "strict_embedded_nulls"] with
    | some [name, provider, settings, strict] => do
      return {
        name := ← part? default.name Json.text? name
        provider := ← part? default.provider Json.text? provider
        settings := ← part? default.settings (Settings.ofJson? limit) settings
        strictEmbeddedNulls := ← part? default.strictEmbeddedNulls Json.bool? strict }
    | _ => none
  | 0, _ => none

/-- Reads the JSON text of a configuration. -/
def ofJson (text : String) : Except MapError Config := do
  let c ← readJson ofJson? text
  if isBlankText c.provider then .error (.invalidArgument .emptyProvider) else return c

end Config
end EntityMapping
