import EntityMapping.Number.Power

/-!
# Decimal digits

The decimal digits of natural numbers, most significant first, and the number that a run of digits
writes. Everything that prints or reads numbers goes through here.

The law is `value_ofNat`: the digits of a number write that number.
-/

namespace EntityMapping

/-- A decimal digit. -/
abbrev Digit := Fin 10

namespace Digit

/-- The digit `0`. -/
def zero : Digit := ⟨0, by decide⟩

/-- The character of a digit. -/
def toChar (d : Digit) : Char := Char.ofNat (48 + d.val)

/-- The digit that a character shows, if it is one of the ten ASCII digits. -/
def ofChar? (c : Char) : Option Digit :=
  if h : 48 ≤ c.toNat ∧ c.toNat < 58 then some ⟨c.toNat - 48, by omega⟩ else none

/-- A digit's character shows that digit. -/
theorem ofChar?_toChar (d : Digit) : ofChar? d.toChar = some d := by
  revert d
  decide

end Digit

namespace Digits

/-- The digits of a number, without leading zeros; zero has the one digit `0`. -/
def ofNat (n : Nat) : List Digit :=
  if n < 10 then [Fin.ofNat 10 n] else ofNat (n / 10) ++ [Fin.ofNat 10 (n % 10)]
termination_by n

/-- The number that a run of digits writes. -/
def value (ds : List Digit) : Nat := ds.foldl (fun n d => 10 * n + d.val) 0

theorem value_append_singleton (ds : List Digit) (d : Digit) :
    value (ds ++ [d]) = 10 * value ds + d.val := by
  simp [value, List.foldl_append]

/-- The digits of a number write that number. -/
theorem value_ofNat (n : Nat) : value (ofNat n) = n := by
  induction n using ofNat.induct with
  | case1 n h =>
    rw [ofNat, if_pos h]
    simp [value, Fin.ofNat]
    omega
  | case2 n h ih =>
    rw [ofNat, if_neg h, value_append_singleton, ih]
    simp [Fin.ofNat]
    omega

theorem ofNat_ne_nil (n : Nat) : ofNat n ≠ [] := by
  rw [ofNat]
  split <;> simp

/-- The characters of a run of digits. -/
def toChars (ds : List Digit) : List Char := ds.map Digit.toChar

/-- The text of a run of digits. -/
def text (ds : List Digit) : String := String.ofList (toChars ds)

/-- The digits, padded with zeros in front to at least `width`. -/
def padded (width n : Nat) : List Digit :=
  let ds := ofNat n
  List.replicate (width - ds.length) .zero ++ ds

/-- Splits the digits at the front of a text from the rest. -/
def split : List Char → List Digit × List Char
  | [] => ([], [])
  | c :: cs =>
    match Digit.ofChar? c with
    | some d => (d :: (split cs).1, (split cs).2)
    | none => ([], c :: cs)

end Digits

/-- The decimal text of a natural number. -/
def naturalText (n : Nat) : String := Digits.text (Digits.ofNat n)

/-- The decimal text of an integer, with a minus sign when it is negative. -/
def integerText (n : Int) : String :=
  if n < 0 then "-" ++ naturalText n.natAbs else naturalText n.natAbs

end EntityMapping
