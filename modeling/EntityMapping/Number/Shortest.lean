import EntityMapping.Number.Digits
import EntityMapping.Number.Double

/-!
# The shortest decimal that reads back

Among the decimals that a format rounds to a given number, the one with the fewest digits, and of those the one
nearest to the number. Where the number lies halfway between two of them, the choice is left to whoever
writes it.

## How it is found

The decimals that round to `m · 2 ^ e` form an interval around it, whose ends belong to it exactly when
`m` is even. For 1, 2, … digits the two neighbours of the number on the grid of that many digits are
tried in exact integer arithmetic; the first grid that has one in the interval wins. A grid that has
any point in the interval has one of the two neighbours there, so nothing shorter is missed. Seventeen
digits always suffice for doubles, and nine for single precision.
-/

namespace EntityMapping

/-- The decimal `coefficient · 10 ^ exponent`. -/
structure Decimal where
  coefficient : Nat
  exponent : Int
  deriving DecidableEq, Repr

namespace Decimal

/-- The same number without trailing zeros in the coefficient. -/
def trimmed (d : Decimal) : Decimal :=
  if h : 0 < d.coefficient ∧ d.coefficient % 10 = 0 then
    trimmed ⟨d.coefficient / 10, d.exponent + 1⟩
  else d
termination_by d.coefficient
decreasing_by exact Nat.div_lt_self h.1 (by omega)

end Decimal

namespace Shortest

/-- The decimals that round to one number, scaled so that all bounds are integers: the number is
`value / scale`, and the interval goes from `low / scale` to `high / scale`. -/
structure Interval where
  value : Nat
  low : Nat
  high : Nat
  scale : Nat
  closed : Bool

/-- The interval of `m · 2 ^ e`. Its bounds lie half a unit away, and only a quarter below a power of two,
where the numbers underneath are twice as dense. -/
def interval (p : Precision) (m : Nat) (e : Int) : Interval :=
  let below := if m = 2 ^ (p.bits - 1) ∧ p.least < e then 1 else 2
  let up := 2 ^ (e - 2).toNat
  { value := 4 * m * up, low := (4 * m - below) * up, high := (4 * m + 2) * up,
    scale := 2 ^ (2 - e).toNat, closed := m % 2 = 0 }

namespace Interval

/-- Whether `t · up / down` lies in the interval. -/
def holds (i : Interval) (t up down : Nat) : Bool :=
  let x := t * up * i.scale
  if i.closed then i.low * down ≤ x ∧ x ≤ i.high * down else i.low * down < x ∧ x < i.high * down

/-- How many digits stand before the point of the value; zero and less for fractions that begin with
zeros. -/
def magnitude (i : Interval) : Int :=
  if i.scale ≤ i.value then (Digits.ofNat (i.value / i.scale)).length
  else 1 - (Digits.ofNat ((i.scale + i.value - 1) / i.value - 1)).length

/-- The neighbour of the value on the grid of multiples of `10 ^ k` that lies in the interval, the nearer
one if both do, and of two equally near ones the one that the tie says. -/
def onGrid? (i : Interval) (tie : Tie) (k : Int) : Option Decimal :=
  let up := 10 ^ k.toNat
  let down := 10 ^ (-k).toNat
  let below := i.value * down / (i.scale * up)
  let nearest := roundDiv tie (i.value * down) (i.scale * up)
  match i.holds below up down, i.holds (below + 1) up down with
  | true, true => some ⟨nearest, k⟩
  | true, false => some ⟨below, k⟩
  | false, true => some ⟨below + 1, k⟩
  | false, false => none

/-- The first decimal found on the grids from the given number of digits on, trying `tries` of them. -/
def search (i : Interval) (tie : Tie) (digits : Int) : Nat → Decimal
  | 0 => ⟨0, 0⟩
  | tries + 1 =>
    match i.onGrid? tie (i.magnitude - digits) with
    | some d => d.trimmed
    | none => i.search tie (digits + 1) tries

end Interval

/-- The shortest decimal that the format reads back as the positive number `m · 2 ^ e`. -/
def decimal (p : Precision) (tie : Tie) (m : Nat) (e : Int) : Decimal :=
  (interval p m e).search tie 1 17

end Shortest
end EntityMapping
