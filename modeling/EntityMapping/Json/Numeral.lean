import EntityMapping.Number.Layout

/-!
# JSON numerals

A numeral is a sign, digits, and optionally a fraction and an exponent; it has no leading zeros. It is an
integer when it has neither fraction nor exponent and fits 64 bits; negative zero is no integer.

As a double, a numeral is not always rounded to the nearest one. Its digits are taken as one 64-bit number
as far as they fit, that number becomes a double, and one multiplication or division by a power of ten puts
the point in place. Each of these steps rounds.
-/

namespace EntityMapping
namespace Json

/-- A number as it is written. -/
structure Numeral where
  negative : Bool
  whole : List Digit
  fraction : List Digit
  exponent : Option (Bool × List Digit)
  deriving DecidableEq, Repr

namespace Numeral

/-- The characters of a numeral. An exponent always shows its sign. -/
def toChars (n : Numeral) : List Char :=
  (if n.negative then ['-'] else []) ++ Digits.toChars n.whole ++
    (if n.fraction.isEmpty then [] else '.' :: Digits.toChars n.fraction) ++
    match n.exponent with
    | none => []
    | some (negative, ds) => 'e' :: (if negative then '-' else '+') :: Digits.toChars ds

/-- Reads the exponent at the end of a numeral. -/
def readExponent? : List Char → Option (Option (Bool × List Digit))
  | [] => some none
  | e :: cs =>
    if e ≠ 'e' ∧ e ≠ 'E' then none
    else
      let (negative, cs) := match cs with
        | '-' :: cs => (true, cs)
        | '+' :: cs => (false, cs)
        | cs => (false, cs)
      match Digits.split cs with
      | (d :: ds, []) => some (some (negative, d :: ds))
      | _ => none

/-- Reads the part of a numeral behind its sign. -/
def readUnsigned? (negative : Bool) (cs : List Char) : Option Numeral :=
  match Digits.split cs with
  | ([], _) => none
  | (d :: ds, cs) =>
    if d = .zero ∧ ¬ ds.isEmpty then none
    else match cs with
      | '.' :: cs =>
        match Digits.split cs with
        | ([], _) => none
        | (f :: fs, cs) => (readExponent? cs).map fun e => ⟨negative, d :: ds, f :: fs, e⟩
      | cs => (readExponent? cs).map fun e => ⟨negative, d :: ds, [], e⟩

/-- Reads a numeral. -/
def read? : List Char → Option Numeral
  | '-' :: cs => readUnsigned? true cs
  | cs => readUnsigned? false cs

/-- The numeral of an integer. -/
def ofInt (n : Int) : Numeral := ⟨n < 0, Digits.ofNat n.natAbs, [], none⟩

/-- The integer that a numeral without fraction and exponent writes. -/
def toInt? (n : Numeral) : Option Int :=
  let magnitude := Digits.value n.whole
  if ¬ n.fraction.isEmpty ∨ n.exponent.isSome then none
  else if n.negative then
    if 0 < magnitude ∧ magnitude ≤ 2 ^ 63 then some (-(magnitude : Int)) else none
  else if magnitude < 2 ^ 64 then some magnitude
  else none

/-! ## Numerals as doubles -/

/-- Takes digits onto a 64-bit number until one does not fit. Returns the number and how many were taken. -/
def accumulate : Nat → List Digit → Nat × Nat
  | n, [] => (n, 0)
  | n, d :: ds =>
    if 2 ^ 64 ≤ 10 * n + d.val then (n, 0)
    else ((accumulate (10 * n + d.val) ds).1, (accumulate (10 * n + d.val) ds).2 + 1)

/-- The double nearest to `10 ^ k`. -/
def powerOfTen (k : Nat) : Float := Float.ofScientific 1 false k

/-- Divides by `10 ^ k`, in steps when `10 ^ k` itself is out of range. -/
def scaleDown (x : Float) (k : Nat) : Float :=
  if k ≤ 308 then x / powerOfTen k
  else if x == 0.0 then x
  else scaleDown (x / powerOfTen 308) (k - 308)
termination_by k
decreasing_by omega

/-- The double `significand · 10 ^ exponent`, unless it is too large. -/
def scale? (significand : Nat) (exponent : Int) : Option Float :=
  let x := (UInt64.ofNat significand).toFloat
  if exponent < 0 then some (scaleDown x exponent.natAbs)
  else if exponent ≤ 308 then
    let y := x * powerOfTen exponent.toNat
    if y.isInf then none else some y
  else if x == 0.0 then some x
  else none

/-- The double that a numeral stands for, unless it is too large. -/
def magnitude? (n : Numeral) : Option Float :=
  let (leading, taken) := accumulate 0 n.whole
  let (significand, places) := accumulate leading n.fraction
  let point : Int := (n.whole.length - taken : Nat) - (places : Int)
  match n.exponent with
  | none => scale? significand point
  | some (negative, ds) =>
    let e : Int := Digits.value ds
    if e < 2 ^ 31 then scale? significand (if negative then point - e else point + e)
    else if negative ∨ significand = 0 then some 0.0
    else none

/-- The double that a numeral stands for. Integers of 64 bits become the nearest double. -/
def toDouble? (n : Numeral) : Option Float :=
  n.magnitude?.map fun x => if n.negative then -x else x

/-- The numeral of a finite double. Numbers from `0.00001` up to below `10 ^ 16` are written with a point and
at least one digit behind it, all others with one digit before the point and an exponent. -/
def ofDecimal (negative : Bool) (d : Decimal) : Numeral :=
  if d.coefficient = 0 then ⟨negative, [.zero], [.zero], none⟩
  else if d.atLeast (-5) && !d.atLeast 16 then
    let (whole, fraction) := d.positional
    ⟨negative, whole, if fraction.isEmpty then [.zero] else fraction, none⟩
  else
    let e := d.leadingExponent
    let digits := Digits.ofNat d.coefficient
    ⟨negative, digits.take 1, digits.drop 1, some (e < 0, Digits.ofNat e.natAbs)⟩

end Numeral
end Json
end EntityMapping
