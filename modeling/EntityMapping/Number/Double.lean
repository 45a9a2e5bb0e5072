import EntityMapping.Number.Power

/-!
# Doubles taken apart

A finite double is exactly `± mantissa · 2 ^ exponent`. This module reads that form off the bits of a
double and answers, in exact integer arithmetic, the questions that the mapping asks of doubles:
which integer one is, which double stands for an integer, and which one a shorter format can hold.
-/

namespace EntityMapping

/-- The exact value `± mantissa · 2 ^ exponent` of a finite double. -/
structure Dyadic where
  negative : Bool
  mantissa : Nat
  exponent : Int
  deriving DecidableEq, Repr

namespace Dyadic

/-- The exact value of a double, if it is finite. -/
def ofFloat? (x : Float) : Option Dyadic :=
  let bits := x.toBits.toNat
  let negative : Bool := 2 ^ 63 ≤ bits
  let biased : Nat := bits / 2 ^ 52 % 2 ^ 11
  let fraction : Nat := bits % 2 ^ 52
  if biased = 2047 then none
  else if biased = 0 then some ⟨negative, fraction, -1074⟩
  else some ⟨negative, 2 ^ 52 + fraction, (biased : Int) - 1075⟩

/-- The sign of the value, put on a magnitude. -/
def signed (d : Dyadic) (n : Nat) : Int := if d.negative then -(n : Int) else n

/-- The integer that the value is, if it is one. -/
def toInt? (d : Dyadic) : Option Int :=
  if 0 ≤ d.exponent then some (d.signed (d.mantissa * 2 ^ d.exponent.toNat))
  else
    let unit := 2 ^ d.exponent.natAbs
    if d.mantissa % unit = 0 then some (d.signed (d.mantissa / unit)) else none

end Dyadic

/-- The integer that a double is exactly, if it is finite and has no fraction. -/
def exactInteger? (x : Float) : Option Int := (Dyadic.ofFloat? x).bind Dyadic.toInt?

/-- The signed 64-bit integer that a double is exactly, if it is one. The upper bound `2 ^ 63` is itself a
double but no 64-bit integer, the lower bound `-2 ^ 63` is both. -/
def exactInt64? (x : Float) : Option Int64 :=
  (exactInteger? x).bind fun n => if -2 ^ 63 ≤ n ∧ n < 2 ^ 63 then some (Int64.ofInt n) else none

/-- The double nearest to a 64-bit integer. Its sign is the integer's, so the magnitude is converted. -/
def nearestDouble (n : Int64) : Float :=
  let magnitude := (UInt64.ofNat n.toInt.natAbs).toFloat
  if n < 0 then -magnitude else magnitude

/-- Which neighbour is taken when both are equally near. -/
inductive Tie where
  | toEven
  | up
  deriving DecidableEq, Repr

/-- Whether a half above `q` is rounded up. -/
def Tie.raises (t : Tie) (q : Nat) : Bool :=
  match t with
  | .toEven => q % 2 = 1
  | .up => true

/-- The quotient of two naturals rounded to the nearest one, a half going as the tie says. -/
def roundDiv (tie : Tie) (n d : Nat) : Nat :=
  let q := n / d
  let r := n % d
  if d < 2 * r ∨ (2 * r = d ∧ tie.raises q) then q + 1 else q

/-- A binary format: how many bits a mantissa has, and the exponent of the smallest unit. -/
structure Precision where
  bits : Nat
  least : Int
  deriving DecidableEq, Repr

namespace Precision

/-- The format of doubles. -/
def double : Precision := ⟨53, -1074⟩

/-- The format of single-precision numbers. -/
def single : Precision := ⟨24, -149⟩

end Precision

/-- The value rounded to a format without regard to its largest number. A half goes to the even
neighbour. -/
def Dyadic.round (p : Precision) (d : Dyadic) : Dyadic :=
  let bits : Int := if d.mantissa = 0 then 0 else d.mantissa.log2 + 1
  let dropped := max (bits - p.bits) (p.least - d.exponent)
  if dropped ≤ 0 then d
  else ⟨d.negative, roundDiv .toEven d.mantissa (2 ^ dropped.toNat), d.exponent + dropped⟩

/-- The power `2 ^ e` as a double, for the exponents of normal doubles. -/
def powerOfTwo (e : Int) : Float := Float.ofBits (UInt64.ofNat ((e + 1023).toNat * 2 ^ 52))

/-- The double nearest to `x` that single precision can hold, which is infinite from `2 ^ 128` on. -/
def toSinglePrecision (x : Float) : Float :=
  match Dyadic.ofFloat? x with
  | none => x
  | some d =>
    let r := d.round .single
    let magnitude :=
      if 104 < r.exponent ∨ (r.exponent = 104 ∧ 2 ^ 24 ≤ r.mantissa) then powerOfTwo 1024
      else (UInt64.ofNat r.mantissa).toFloat * powerOfTwo r.exponent
    if d.negative then -magnitude else magnitude

end EntityMapping
