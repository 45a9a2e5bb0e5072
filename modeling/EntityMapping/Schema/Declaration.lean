import EntityMapping.Schema.EntityType

/-!
# Declared types

Most types need no hand-written description: it follows from the declaration of their members. Unless
a type declares that its objects start as copies of a given one, it is built by a constructor over all mapped members
in order. A member that is skipped is not mapped and starts with its initial value.
-/

namespace EntityMapping

/-- Whether a member must be given a value. -/
inductive Presence where
  /-- The member always holds something, and the constructor asks for it. -/
  | required
  /-- The member may hold nothing. -/
  | optional
  /-- The member always holds something, the default if nothing is given. -/
  | defaulted (d : Datum)
  /-- The member is not mapped. -/
  | skipped (initial : Option Datum)

/-- The declaration of a member. -/
structure Member where
  name : String
  /-- The text of the declared type, as the signature of the constructor shows it. -/
  declared : String
  type : FieldType
  presence : Presence
  /-- The name to store it under, if it is another one than the member's. -/
  recordName : Option String
  isId : Bool
  converter : Option ConverterRef

/-- The declaration of a mapped type. -/
structure Declaration where
  name : String
  typeName : TypeName
  embeddable : Bool
  /-- The name of its records, if it is another one than the type's. -/
  recordName : Option String
  members : List Member
  /-- The object that all objects start as, if there is no constructor. -/
  start : Option Object
  order : Object → Object → Ordering

namespace Member

/-- A member that always holds something. -/
def required (name declared : String) (type : FieldType) : Member :=
  ⟨name, declared, type, .required, none, false, none⟩

/-- A member that may hold nothing. -/
def optional (name declared : String) (type : FieldType) : Member :=
  ⟨name, declared, type, .optional, none, false, none⟩

/-- The member as the id of its type. -/
def asId (m : Member) : Member := { m with isId := true }

/-- The member stored under another name. -/
def named (name : String) (m : Member) : Member := { m with recordName := some name }

/-- The member stored through an attribute converter. -/
def via (ref : ConverterRef) (m : Member) : Member := { m with converter := some ref }

/-- The member with a default. -/
def withDefault (d : Datum) (m : Member) : Member := { m with presence := .defaulted d }

/-- The member left out of the mapping, with what it starts with. -/
def skip (initial : Option Datum) (m : Member) : Member := { m with presence := .skipped initial }

/-- Whether a member is mapped. -/
def isMapped (m : Member) : Bool :=
  match m.presence with
  | .skipped _ => false
  | _ => true

/-- Whether a member may hold nothing. -/
def mayBeEmpty (m : Member) : Bool :=
  match m.presence with
  | .optional => true
  | .skipped none => true
  | _ => false

/-- The field of a mapped member. -/
def field (owner : TypeName) (m : Member) : FieldMapping :=
  ⟨owner, m.name, m.recordName.getD m.name, m.type, m.isId, m.converter⟩

/-- The slot of a member, filled from the next argument unless the member is skipped. -/
def construct (m : Member) : Construction (String × Option Datum) := do
  match m.presence with
  | .required => return (m.name, some (← Construction.take m.type))
  | .optional => return (m.name, ← Construction.takeOptional m.type)
  | .defaulted d => return (m.name, some (← Construction.takeOrDefault m.type d))
  | .skipped initial => return (m.name, initial)

end Member

namespace Declaration

/-- The type as other types know it. -/
def ref (d : Declaration) : TypeRef := ⟨d.typeName, d.embeddable⟩

/-- The mapped members, in order. -/
def mapped (d : Declaration) : List Member := d.members.filter Member.isMapped

/-- The constructor over all mapped members. -/
def constructor (d : Declaration) : Constructor where
  signature :=
    d.name ++ "(" ++ ", ".intercalate (d.mapped.map fun m => m.name ++ ": " ++ m.declared) ++ ")"
  parameters := d.mapped.map Member.name
  build := do return ⟨d.typeName, ← d.members.mapM Member.construct⟩

/-- The description that follows from a declaration. -/
def describe (d : Declaration) : TypeDescription where
  name := d.recordName.getD d.name
  typeName := d.typeName
  embeddable := d.embeddable
  fields := d.mapped.map (Member.field d.typeName)
  creation := some (match d.start with
    | some o => .fresh o
    | none => .constructed d.constructor)
  order := d.order

end Declaration
end EntityMapping
