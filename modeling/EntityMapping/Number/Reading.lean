import EntityMapping.Number.Digits

/-!
# Reading doubles

A double is written as an optional sign and either a decimal, with or without point and exponent, or one
of the words for infinity and for no number, in any case. A decimal reads as the double nearest to it.
-/

namespace EntityMapping

/-- Why a text is not a double. -/
inductive DoubleFault where
  | empty
  | invalid
  deriving DecidableEq, Repr

namespace DoubleFault

def message : DoubleFault → String
  | empty => "cannot parse float from empty string"
  | invalid => "invalid float literal"

end DoubleFault

namespace DoubleReading

/-- The double nearest to `coefficient · 10 ^ exponent`. -/
def nearest (coefficient : Nat) (exponent : Int) : Float :=
  Float.ofScientific coefficient (exponent < 0) exponent.natAbs

/-- The value of an exponent part: nothing, or the letter `e`, an optional sign and digits. -/
def exponent? : List Char → Option Int
  | [] => some 0
  | e :: cs =>
    if e ≠ 'e' ∧ e ≠ 'E' then none
    else
      let (negative, cs) := match cs with
        | '-' :: cs => (true, cs)
        | '+' :: cs => (false, cs)
        | cs => (false, cs)
      match Digits.split cs with
      | ([], _) => none
      | (ds, []) => some (if negative then -(Digits.value ds : Int) else Digits.value ds)
      | (_, _ :: _) => none

/-- Reads digits with an optional point among or around them, and an exponent. -/
def decimal? (cs : List Char) : Option Float :=
  let (whole, cs) := Digits.split cs
  let (fraction, cs) := match cs with
    | '.' :: cs => Digits.split cs
    | cs => ([], cs)
  if whole.isEmpty && fraction.isEmpty then none
  else
    (exponent? cs).map fun e => nearest (Digits.value (whole ++ fraction)) (e - fraction.length)

/-- Reads an unsigned double: a word or a decimal. -/
def magnitude? (cs : List Char) : Option Float :=
  let word := String.ofList (cs.map Char.toLower)
  if word = "inf" ∨ word = "infinity" then some (1.0 / 0.0)
  else if word = "nan" then some (0.0 / 0.0)
  else decimal? cs

end DoubleReading

/-- Reads a double. -/
def readDouble (text : String) : Except DoubleFault Float :=
  let found := match text.toList with
    | '-' :: cs => (DoubleReading.magnitude? cs).map fun x => -x
    | '+' :: cs => DoubleReading.magnitude? cs
    | cs => DoubleReading.magnitude? cs
  if text.isEmpty then .error .empty
  else match found with
    | some x => .ok x
    | none => .error .invalid

end EntityMapping
