import EntityMapping.Number.Power

/-!
# Hexadecimal digits

Reading takes either case, writing gives lower case. The law is `hexValue?_hexText`: the digits written for a
number read back as that number, as far as the number of digits goes.
-/

namespace EntityMapping

/-- The value of a hexadecimal digit. -/
def hexDigit? (c : Char) : Option Nat :=
  let n := c.toNat
  if 48 ≤ n ∧ n < 58 then some (n - 48)
  else if 97 ≤ n ∧ n < 103 then some (n - 87)
  else if 65 ≤ n ∧ n < 71 then some (n - 55)
  else none

/-- The lower-case character of a hexadecimal digit. -/
def hexChar (n : Nat) : Char := if n < 10 then Char.ofNat (48 + n) else Char.ofNat (87 + n)

/-- A written digit reads back. -/
theorem hexDigit?_hexChar {n : Nat} (h : n < 16) : hexDigit? (hexChar n) = some n := by
  have hall : ∀ k ∈ List.range 16, hexDigit? (hexChar k) = some k := by decide
  exact hall n (List.mem_range.mpr h)

/-- The last `count` hexadecimal digits of a number, most significant first. -/
def hexText : (count n : Nat) → List Char
  | 0, _ => []
  | count + 1, n => hexText count (n / 16) ++ [hexChar (n % 16)]

/-- Reads hexadecimal digits behind those that make `n`. -/
def hexValueFrom? (n : Nat) : List Char → Option Nat
  | [] => some n
  | c :: cs => (hexDigit? c).bind fun d => hexValueFrom? (16 * n + d) cs

/-- The number that a run of hexadecimal digits writes. -/
def hexValue? (cs : List Char) : Option Nat := hexValueFrom? 0 cs

theorem length_hexText (count n : Nat) : (hexText count n).length = count := by
  induction count generalizing n with
  | zero => rfl
  | succ count ih => simp [hexText, ih]

theorem hexValueFrom?_append_singleton (n : Nat) (cs : List Char) (c : Char) :
    hexValueFrom? n (cs ++ [c]) =
      (hexValueFrom? n cs).bind fun m => (hexDigit? c).map fun d => 16 * m + d := by
  induction cs generalizing n with
  | nil => cases h : hexDigit? c <;> simp [hexValueFrom?, h]
  | cons b cs ih => cases h : hexDigit? b <;> simp [hexValueFrom?, h, ih]

/-- The digits written for a number read back as its last digits. -/
theorem hexValue?_hexText (count n : Nat) : hexValue? (hexText count n) = some (n % 16 ^ count) := by
  unfold hexValue?
  induction count generalizing n with
  | zero => simp [hexText, hexValueFrom?, Nat.mod_one]
  | succ count ih =>
    rw [hexText, hexValueFrom?_append_singleton, ih, hexDigit?_hexChar (Nat.mod_lt n (by decide)), Nat.pow_succ',
      Nat.mod_mul]
    simp
    omega

end EntityMapping
