import EntityMapping.Proofs.Number.Finite
import Mathlib

/-!
# Exact values of doubles

A finite double is a zero or `± mantissa · 2 ^ exponent`, which is a rational number. Where a double is asked for the
integer that it is, that number decides: there is an answer exactly if the number is an integer.

* `exactValue?` — the number that an unpacked double is
* `exactValue?_eq` — it is the one that is read off the bits
* `exactInteger?_eq_some_iff`, `exactInt64?_eq_some_iff` — which integer a double is, and which one of 64 bits
-/

namespace EntityMapping

open Float.Model Float.Model.UnpackedFloat

/-- The number that an unpacked double is, if it is finite. -/
def exactValue? : UnpackedFloat → Option ℚ
  | .zero _ => some 0
  | .finite s m e _ => some (s.apply m * 2 ^ e)
  | .infinity _ => none
  | .notANumber => none

namespace Dyadic

variable (d : Dyadic)

/-- The number that is taken apart. -/
def toRat : ℚ := d.signed d.mantissa * 2 ^ d.exponent

theorem signed_mul (a b : Nat) : d.signed (a * b) = d.signed a * b := by
  unfold signed
  split <;> simp

theorem natAbs_signed (a : Nat) : (d.signed a).natAbs = a := by
  unfold signed
  split <;> simp

/-- The number is the integer that is asked for, if it is an integer. -/
theorem toInt?_eq_some_iff (n : Int) : d.toInt? = some n ↔ d.toRat = n := by
  unfold toInt? toRat
  by_cases hexponent : 0 ≤ d.exponent
  · obtain ⟨k, hk⟩ := Int.eq_ofNat_of_zero_le hexponent
    rw [if_pos hexponent, hk, Int.toNat_natCast, zpow_natCast, Option.some_inj, signed_mul]
    norm_cast
  · obtain ⟨k, hk⟩ : ∃ k : Nat, d.exponent = -k := ⟨d.exponent.natAbs, by omega⟩
    have hwhole : (d.signed d.mantissa : ℚ) * 2 ^ d.exponent = n ↔ d.signed d.mantissa = n * 2 ^ k := by
      rw [hk, zpow_neg, zpow_natCast, ← div_eq_mul_inv, div_eq_iff (pow_ne_zero k two_ne_zero)]
      norm_cast
    rw [if_neg hexponent, hwhole, hk, Int.natAbs_neg, Int.natAbs_natCast]
    dsimp only
    split
    · next hmod =>
      have hdivides : d.mantissa / 2 ^ k * 2 ^ k = d.mantissa := Nat.div_mul_cancel (Nat.dvd_of_mod_eq_zero hmod)
      have hsigned := d.signed_mul (d.mantissa / 2 ^ k) (2 ^ k)
      rw [hdivides] at hsigned
      rw [Option.some_inj, hsigned, Nat.cast_pow, Nat.cast_ofNat]
      exact (mul_left_inj' (pow_ne_zero k two_ne_zero)).symm
    · next hmod =>
      refine iff_of_false nofun fun heq => hmod (Nat.mod_eq_zero_of_dvd ⟨n.natAbs, ?_⟩)
      rw [← d.natAbs_signed d.mantissa, heq, Int.natAbs_mul, Int.natAbs_pow, Nat.mul_comm]
      rfl

end Dyadic

/-! ## Doubles -/

section Bits

variable (b : BitVec Format.binary64.numBits)

theorem toNat_unpackExponent : (unpackExponent b).toNat = b.toNat / 2 ^ 52 % 2 ^ 11 := by
  simp [unpackExponent, Nat.shiftRight_eq_div_pow]

theorem toNat_unpackMantissa : (unpackMantissa b).toNat = b.toNat % 2 ^ 52 := by
  simp [unpackMantissa]

theorem sign_unpackSign : Sign.ofBitVec (unpackSign b) = if 2 ^ 63 ≤ b.toNat then .negative else .positive := by
  have hlt : b.toNat < 2 ^ 64 := b.isLt
  have hsign : (unpackSign b).toNat = b.toNat / 2 ^ 63 := by
    simp [unpackSign, Nat.shiftRight_eq_div_pow]
    omega
  have hzero : unpackSign b = 0#1 ↔ b.toNat < 2 ^ 63 := by
    rw [← BitVec.toNat_inj, hsign]
    simp
  rw [Sign.ofBitVec]
  by_cases h : 2 ^ 63 ≤ b.toNat
  · rw [if_pos h, if_neg (mt hzero.mp (Nat.not_lt.mpr h))]
  · rw [if_neg h, if_pos (hzero.mpr (Nat.not_le.mp h))]

end Bits

theorem toNat_one_append (f : BitVec 52) : (1#1 ++ f).toNat = 2 ^ 52 + f.toNat := by
  rw [BitVec.toNat_append, ← Nat.shiftLeft_add_eq_or_of_lt f.isLt, Nat.shiftLeft_eq]
  rfl

/-- The sign, the mantissa and the exponent of a double make a number by themselves. -/
theorem toRat_eq (negative : Bool) (m : Nat) (e : Int) :
    Dyadic.toRat ⟨negative, m, e⟩ = (if negative then Sign.negative else Sign.positive).apply m * 2 ^ e := by
  cases negative <;> rfl

/-- The number that a word of bits is, is read off its three fields. -/
theorem exactValue?_unpack (b : BitVec Format.binary64.numBits) :
    exactValue? (unpack .binary64 b) =
      Option.map Dyadic.toRat
        (if (unpackExponent b).toNat = 2047 then none
        else if (unpackExponent b).toNat = 0 then some ⟨decide (2 ^ 63 ≤ b.toNat), (unpackMantissa b).toNat, -1074⟩
        else some ⟨decide (2 ^ 63 ≤ b.toNat), 2 ^ 52 + (unpackMantissa b).toNat,
          ((unpackExponent b).toNat : Int) - 1075⟩) := by
  have hbias : (Format.binary64.exponentBias : Int) = 1023 := by decide
  have hsign := sign_unpackSign b
  by_cases hlast : unpackExponent b = 2047#11
  · have hnat : (unpackExponent b).toNat = 2047 := by rw [hlast]; rfl
    rw [if_pos hnat]
    unfold UnpackedFloat.unpack
    by_cases hmantissa : unpackMantissa b = 0#52 <;> simp [hlast, hmantissa, exactValue?]
  · have hnat : (unpackExponent b).toNat ≠ 2047 := fun h => hlast (BitVec.eq_of_toNat_eq h)
    rw [if_neg hnat]
    by_cases hzero : unpackExponent b = 0#11
    · have hnat : (unpackExponent b).toNat = 0 := by rw [hzero]; rfl
      rw [if_pos hnat]
      unfold UnpackedFloat.unpack
      by_cases hmantissa : unpackMantissa b = 0#52
      · simp [hzero, hmantissa, exactValue?, Dyadic.toRat, Dyadic.signed]
      · simp [hzero, hmantissa, exactValue?, toRat_eq, hbias, hsign]
    · have hnat : (unpackExponent b).toNat ≠ 0 := fun h => hzero (BitVec.eq_of_toNat_eq h)
      rw [if_neg hnat, unpack_of_normal hzero hlast, exactValue?, toNat_one_append]
      simp [toRat_eq, hsign]

/-- The number that a double is, is the one that its parts make. -/
theorem exactValue?_eq (x : Float) : exactValue? x.toModel.unpack = (Dyadic.ofFloat? x).map Dyadic.toRat := by
  have hparts := exactValue?_unpack x.toModel.toBits.toBitVec
  rw [toNat_unpackExponent, toNat_unpackMantissa] at hparts
  exact hparts

/-! ## Integers -/

/-- A double is asked for an integer: there is an answer if that integer is the number that the double is. -/
theorem exactInteger?_eq_some_iff {x : Float} {n : Int} :
    exactInteger? x = some n ↔ exactValue? x.toModel.unpack = some (n : ℚ) := by
  rw [exactInteger?, exactValue?_eq, Option.bind_eq_some_iff, Option.map_eq_some_iff]
  simp only [Dyadic.toInt?_eq_some_iff]

/-- An integer of 64 bits is one that is in their range. -/
theorem exactInt64?_eq_some_iff {x : Float} {n : Int64} :
    exactInt64? x = some n ↔ exactValue? x.toModel.unpack = some (n.toInt : ℚ) := by
  rw [← exactInteger?_eq_some_iff, exactInt64?, Option.bind_eq_some_iff]
  constructor
  · rintro ⟨k, hk, hrange⟩
    split at hrange
    · next hbounds =>
      obtain rfl := Option.some.inj hrange
      rw [Int64.toInt_ofInt_of_le hbounds.1 hbounds.2]
      exact hk
    · simp at hrange
  · intro h
    exact ⟨n.toInt, h, by rw [if_pos ⟨n.le_toInt, n.toInt_lt⟩, Int64.ofInt_toInt]⟩

end EntityMapping
