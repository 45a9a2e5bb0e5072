import EntityMapping.Schema.Declaration
import EntityMapping.Value.Describe

/-!
# Objects described

The text that shows of an object all there is to it: the name of its type, and what its members hold. Which
members may hold nothing, and how a type is called, the declarations of the types say.
-/

namespace EntityMapping

/-- What a plain field holds. -/
def ScalarType.describe : (t : ScalarType) → t.Carrier → String
  | text, s => quoted s
  | int64, n => integerText n.toInt
  | int32, n => integerText n.toInt
  | uint32, n => naturalText n.toNat
  | uint64, n => naturalText n.toNat
  | double, x => floatText .double x
  | single, x => floatText .single x
  | boolean, b => boolText b
  | timestamp, t => t.wireText
  | date, d => d.text
  | uuid, u => u.text
  | value, v => v.describe
  | list item, xs => bracketed (xs.map item.describe)

/-- The items of a collection; those of sets stand in braces. -/
def CollectionKind.describe (kind : CollectionKind) (items : List String) : String :=
  match kind with
  | set => inBraces items
  | sortedSet => inBraces items
  | _ => bracketed items

namespace Declaration

/-- What a member holds, given the description of something that it holds. -/
def describeMember (d : Declaration) (name : String) (held : Option String) : String :=
  match held with
  | some text =>
    if d.members.any fun m => m.name = name && m.mayBeEmpty then optionText (some text) else text
  | none => optionText none

end Declaration

variable (declared : TypeName → Declaration)

mutual

/-- What a slot holds. -/
def Datum.describe : Datum → String
  | .scalar t x => t.describe x
  | .object o => describeObject o
  | .collection kind _ items => kind.describe (describeObjects items)

/-- An object. -/
def describeObject : ObjectOf Datum → String
  | ⟨type, slots⟩ => braced (declared type).name (describeSlots (declared type) slots)

/-- Objects. -/
def describeObjects : List (ObjectOf Datum) → List String
  | [] => []
  | o :: os => describeObject o :: describeObjects os

/-- The members of an object. -/
def describeSlots (d : Declaration) : List (String × Option Datum) → List (String × String)
  | [] => []
  | (name, none) :: slots => (name, d.describeMember name none) :: describeSlots d slots
  | (name, some x) :: slots =>
    (name, d.describeMember name (some x.describe)) :: describeSlots d slots

end

end EntityMapping
