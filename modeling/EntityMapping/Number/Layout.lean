import EntityMapping.Number.Shortest

/-!
# Writing doubles

The digits of a double are those of its shortest decimal. How they are laid out is a matter of the
place they are written to. Texts for people have all digits and no exponent, unless numbers of several
types can stand in the same place; of two equally near decimals they show the one of greater magnitude.
-/

namespace EntityMapping

namespace Decimal

/-- The digits before and after the point in positional notation; at least one stands before it. -/
def positional (d : Decimal) : List Digit × List Digit :=
  let digits := Digits.ofNat d.coefficient
  if 0 ≤ d.exponent then (digits ++ List.replicate d.exponent.toNat .zero, [])
  else
    let places := d.exponent.natAbs
    if places < digits.length then digits.splitAt (digits.length - places)
    else ([.zero], List.replicate (places - digits.length) .zero ++ digits)

/-- The decimal exponent of the first digit. -/
def leadingExponent (d : Decimal) : Int := d.exponent + (Digits.ofNat d.coefficient).length - 1

/-- The number is not below `10 ^ k`. -/
def atLeast (d : Decimal) (k : Int) : Bool := k ≤ d.leadingExponent

/-- All digits in positional notation, and a point only before a fraction. -/
def plainText (d : Decimal) : String :=
  let (whole, fraction) := d.positional
  Digits.text whole ++ (if fraction.isEmpty then "" else "." ++ Digits.text fraction)

/-- A text that no integer has. From `0.0001` up to below `10 ^ 16` it is positional with at least one
digit behind the point, otherwise it has one digit before the point and an exponent. -/
def pointedText (d : Decimal) : String :=
  if d.coefficient = 0 ∨ (d.atLeast (-4) && !d.atLeast 16) then
    let (whole, fraction) := d.positional
    Digits.text whole ++ "." ++ Digits.text (if fraction.isEmpty then [.zero] else fraction)
  else
    let leading : Decimal := ⟨d.coefficient, 1 - (Digits.ofNat d.coefficient).length⟩
    leading.plainText ++ "e" ++ integerText d.leadingExponent

end Decimal

/-- What is written of a double: no number, a signed infinity, or a sign and a decimal. -/
inductive DoubleText where
  | notANumber
  | infinite (negative : Bool)
  | finite (negative : Bool) (magnitude : Decimal)
  deriving DecidableEq, Repr

namespace DoubleText

/-- Takes a double that stands for a number of a format apart for writing. -/
def ofFloat (p : Precision) (tie : Tie) (x : Float) : DoubleText :=
  match (Dyadic.ofFloat? x).map (Dyadic.round p) with
  | some d =>
    .finite d.negative
      (if d.mantissa = 0 then ⟨0, 0⟩ else Shortest.decimal p tie d.mantissa d.exponent)
  | none => if x.isNaN then .notANumber else .infinite (2 ^ 63 ≤ x.toBits.toNat)

/-- The text for people, with the decimal in the given layout. -/
def text (layout : Decimal → String) : DoubleText → String
  | .notANumber => "NaN"
  | .infinite negative => (if negative then "-" else "") ++ "inf"
  | .finite negative d => (if negative then "-" else "") ++ layout d

end DoubleText

/-- The text of a double for people. -/
def doubleText (x : Float) : String := (DoubleText.ofFloat .double .up x).text Decimal.plainText

/-- The text of a number of a format where numbers of several types can stand. -/
def floatText (p : Precision) (x : Float) : String :=
  (DoubleText.ofFloat p .up x).text Decimal.pointedText

end EntityMapping
