import EntityMapping.Error
import EntityMapping.Object

/-!
# Validation

A validator looks at an object and lists what is wrong with it; an empty list means that it is valid. Rules make
a validator: each belongs to one type and is broken by the objects that do not satisfy it.

One validator is in general use. It stays until another is installed or it is taken away; after that, the
next one who asks gets one that accepts everything, which stays in turn.
-/

namespace EntityMapping

/-- Lists the violated constraints of an object. -/
abbrev Validator := Object → List Violation

/-- The validator that accepts everything. -/
def Validator.lenient : Validator := fun _ => []

/-- A constraint on the objects of one type. -/
structure Rule where
  root : TypeName
  property : String
  message : String
  valid : Object → Bool

/-- The violation of a rule. -/
def Rule.violation (rule : Rule) : Violation := ⟨rule.property, rule.message, rule.root⟩

/-- Whether an object is of the type of a rule and does not satisfy it. -/
def Rule.isBroken (rule : Rule) (o : Object) : Bool := o.type = rule.root && !rule.valid o

/-- The validator of a list of rules: the violations of the broken rules, in order. -/
def Validator.ofRules (rules : List Rule) : Validator := fun o =>
  (rules.filter fun rule => rule.isBroken o).map Rule.violation

/-- Everything that is wrong with an object, in one text. -/
def validationMessage (label : String) (violations : List Violation) : String :=
  "Validation failed for " ++ label ++ " \nList of constraint violations: [\n" ++
    "\n".intercalate (violations.map Violation.text) ++ "]"

/-- Fails with all violations of an object, if there are any. -/
def Validator.check (validator : Validator) (label : String) (o : Object) : Except MapError Unit :=
  match validator o with
  | [] => .ok ()
  | v :: vs => .error (.validationFailed (validationMessage label (v :: vs)) (v :: vs))

/-! ## The validator in general use -/

/-- The place of the validator in general use. Each validator that is put there gets a new number, by which it can
be told from others. -/
structure ValidatorSlot where
  current : Option (Nat × Validator)
  installed : Nat

namespace ValidatorSlot

/-- No validator is in use. -/
def empty : ValidatorSlot := ⟨none, 0⟩

/-- Puts a validator in the place of the one in use. -/
def install (slot : ValidatorSlot) (validator : Validator) : ValidatorSlot :=
  ⟨some (slot.installed, validator), slot.installed + 1⟩

/-- Takes the validator away. -/
def close (slot : ValidatorSlot) : ValidatorSlot := { slot with current := none }

/-- The validator in use, with its number. If there is none, one that accepts everything is installed. -/
def get (slot : ValidatorSlot) : (Nat × Validator) × ValidatorSlot :=
  match slot.current with
  | some held => (held, slot)
  | none => ((slot.installed, .lenient), slot.install .lenient)

end ValidatorSlot
end EntityMapping
