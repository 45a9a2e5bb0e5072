import EntityMapping.Value

/-!
# Equality of values

Values are equal when they are of one kind and hold equal things; doubles are compared as numbers, so a
number that is none differs from itself and the two zeros are equal. Records are equal when they have the
same name, equally many fields, and the other one holds an equal value under the name of each field: the
order of fields does not matter.

The look-up goes from the fields of the left record into the right one, and compares what it finds there
with what it started from, so nested records are compared with the sides exchanged. It makes no difference as
long as no name is repeated.
-/

namespace EntityMapping

mutual

/-- Whether two values are equal. -/
def Value.eqv : Value → Value → Bool
  | .text a, .text b => a = b
  | .integer a, .integer b => a = b
  | .float a, .float b => a.beq b
  | .boolean a, .boolean b => a = b
  | .timestamp a, .timestamp b => a = b
  | .date a, .date b => a = b
  | .uuid a, .uuid b => a = b
  | .binary a, .binary b => a = b
  | .array as, .array bs => eqvItems as bs
  | .record a, .record b => eqvRecord a b
  | .records as, .records bs => eqvRecords as bs
  | _, _ => false
termination_by a b => sizeOf a + sizeOf b

/-- Whether two lists of values are equal, item by item. -/
def eqvItems : List Value → List Value → Bool
  | [], [] => true
  | a :: as, b :: bs => a.eqv b && eqvItems as bs
  | _, _ => false
termination_by as bs => sizeOf as + sizeOf bs

/-- Whether two records are equal. -/
def eqvRecord (a b : Record) : Bool :=
  a.name = b.name && a.fields.length = b.fields.length &&
    a.fields.attach.all fun ⟨f, _⟩ =>
      match _h : b.get? f.1 with
      | some v => v.eqv f.2
      | none => false
termination_by sizeOf a + sizeOf b
decreasing_by
  have hv := sizeOf_lt_of_get? _h
  have hf := List.sizeOf_lt_of_mem ‹f ∈ a.fields›
  have hp : sizeOf f = 1 + sizeOf f.1 + sizeOf f.2 := rfl
  have ha : sizeOf a = 1 + sizeOf a.name + sizeOf a.fields := rfl
  omega

/-- Whether two lists of records are equal, record by record. -/
def eqvRecords : List Record → List Record → Bool
  | [], [] => true
  | a :: as, b :: bs => eqvRecord a b && eqvRecords as bs
  | _, _ => false
termination_by as bs => sizeOf as + sizeOf bs

end

/-- Whether two records are equal. -/
abbrev RecordOf.eqv (a b : Record) : Bool := eqvRecord a b

instance : BEq Value := ⟨Value.eqv⟩

instance : BEq Record := ⟨eqvRecord⟩

end EntityMapping
