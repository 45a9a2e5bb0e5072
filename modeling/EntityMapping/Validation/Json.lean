import EntityMapping.Validation
import EntityMapping.Value.Json

/-!
# Violations as JSON
-/

namespace EntityMapping
namespace Violation

def toJson (v : Violation) : Json :=
  .fields [("property_path", .text v.propertyPath), ("message", .text v.message), ("root", .text v.root)]

/-- Reads a violation, opening at most `limit` brackets. -/
def ofJson? : Nat → Json → Option Violation
  | _ + 1, j =>
    match j.parts? ["property_path", "message", "root"] with
    | some [some propertyPath, some message, some root] => do
      return ⟨← propertyPath.text?, ← message.text?, ← root.text?⟩
    | _ => none
  | 0, _ => none

end Violation
end EntityMapping
