import EntityMapping.Proofs.Number.Finite
import EntityMapping.Proofs.Number.Order

/-!
# Doubles nearest to integers

An integer of 64 bits becomes a double by shifting it to 53 bits and rounding what is shifted out. So it keeps its
place among the other integers, but those that are rounded to one number become equal.

* `roundedMantissa_shiftRight` — shifting and rounding as one rounded division
* `roundTo53` — the number that the double of a natural number stands for
* `compareDoubles_nearestDouble` — doubles of integers are compared like the numbers that they stand for
-/

namespace EntityMapping

open Float.Model Float.Model.UnpackedFloat

/-! ## Rounding -/

/-- The bit behind the mantissa says whether what was shifted out is at least one half, and the last bit whether it
is anything else. -/
theorem shiftRight_ofMantissa (m k : Nat) :
    ExtendedMantissa.ofMantissaAndAccuracy m .exact >>> k =
      ⟨m / 2 ^ k, decide (2 ^ k ≤ 2 * (m % 2 ^ k)), decide (2 * (m % 2 ^ k) % 2 ^ k ≠ 0)⟩ := by
  induction k with
  | zero => simp [HShiftRight.hShiftRight, Nat.repeat, ExtendedMantissa.ofMantissaAndAccuracy, Nat.mod_one]
  | succ k ih =>
    change ExtendedMantissa.shiftRightOne (ExtendedMantissa.ofMantissaAndAccuracy m .exact >>> k) = _
    have hr := Nat.mod_lt m (Nat.two_pow_pos k)
    have hmod : m % 2 ^ (k + 1) = m % 2 ^ k + 2 ^ k * (m / 2 ^ k % 2) := Nat.mod_pow_succ
    have hlow : 2 * (m % 2 ^ (k + 1)) % 2 ^ (k + 1) = 2 * (m % 2 ^ k) := by
      rw [hmod, Nat.pow_succ', Nat.mul_mod_mul_left, Nat.add_mul_mod_self_left, Nat.mod_mod]
    rw [ih, ExtendedMantissa.shiftRightOne, hlow, hmod, Nat.div_div_eq_div_mul, ← Nat.pow_succ,
      ExtendedMantissa.mk.injEq]
    generalize m % 2 ^ k = r at hr
    refine ⟨rfl, ?_, ?_⟩
    · rw [Nat.pow_succ']
      rcases Nat.mod_two_eq_zero_or_one (m / 2 ^ k) with hbit | hbit
      · simp [hbit]
        omega
      · simp [hbit]
    · by_cases hhalf : 2 ^ k ≤ 2 * r
      · simp [hhalf]
        omega
      · rw [Nat.mod_eq_of_lt (by omega)]
        simp [hhalf]

/-- Bits that are shifted out and rounded away make a rounded division. -/
theorem roundedMantissa_shiftRight (m k : Nat) :
    (ExtendedMantissa.ofMantissaAndAccuracy m .exact >>> k).roundedMantissa = roundDiv .toEven m (2 ^ k) := by
  have hr := Nat.mod_lt m (Nat.two_pow_pos k)
  rw [shiftRight_ofMantissa]
  unfold ExtendedMantissa.roundedMantissa roundDiv
  dsimp only
  generalize m / 2 ^ k = q
  generalize m % 2 ^ k = r at *
  generalize 2 ^ k = p at *
  rcases Nat.lt_trichotomy (2 * r) p with hlt | heq | hgt
  · have hround : decide (p ≤ 2 * r) = false := by simpa using hlt
    have hdown : ¬ (p < 2 * r ∨ 2 * r = p ∧ Tie.toEven.raises q = true) := by omega
    rw [hround, if_neg hdown]
    -- whether nothing was shifted out or something, it is less than one half
    cases decide (2 * r % p ≠ 0) <;> rfl
  · have hround : decide (p ≤ 2 * r) = true := by simp [heq]
    have hsticky : decide (2 * r % p ≠ 0) = false := by simp [heq]
    rw [hround, hsticky]
    rcases Nat.mod_two_eq_zero_or_one q with hq | hq <;>
      simp [ExtendedMantissa.accuracy, Accuracy.roundToNearestEven, Tie.raises, heq, hq]
  · have hround : decide (p ≤ 2 * r) = true := by simpa using Nat.le_of_lt hgt
    have hsticky : decide (2 * r % p ≠ 0) = true := by
      rw [Nat.mod_eq_sub_mod (Nat.le_of_lt hgt), Nat.mod_eq_of_lt (by omega), decide_eq_true_iff]
      omega
    have hup : p < 2 * r ∨ 2 * r = p ∧ Tie.toEven.raises q = true := .inl hgt
    rw [hround, hsticky, if_pos hup]
    rfl

theorem roundDiv_one (t : Tie) (n : Nat) : roundDiv t n 1 = n := by
  simp [roundDiv, Nat.mod_one]

/-- The number that the double of a natural number stands for. -/
def roundTo53 (n : Nat) : Nat := roundDiv .toEven n (2 ^ (n.log2 - 52)) * 2 ^ (n.log2 - 52)

theorem roundTo53_of_log2_le {n : Nat} (h : n.log2 ≤ 52) : roundTo53 n = n := by
  rw [roundTo53, Nat.sub_eq_zero_of_le h, Nat.pow_zero, roundDiv_one, Nat.mul_one]

theorem roundTo53_of_le {n : Nat} (h : n ≤ 2 ^ 53) : roundTo53 n = n := by
  obtain rfl | hlt := Nat.eq_or_lt_of_le h
  · decide
  · exact roundTo53_of_log2_le (Nat.le_of_lt_succ (log2_lt_of_lt (by decide) hlt))

theorem le_roundDiv (t : Tie) (n d : Nat) : n / d ≤ roundDiv t n d := by
  unfold roundDiv
  dsimp only
  split <;> omega

theorem roundDiv_le (t : Tie) (n d : Nat) : roundDiv t n d ≤ n / d + 1 := by
  unfold roundDiv
  dsimp only
  split <;> omega

theorem roundDiv_mono (t : Tie) {a b : Nat} (h : a ≤ b) (d : Nat) : roundDiv t a d ≤ roundDiv t b d := by
  obtain heq | hlt := Nat.eq_or_lt_of_le (Nat.div_le_div_right (c := d) h)
  · -- equal quotients are raised by their remainders, which are in order
    have hrest : a % d ≤ b % d := by
      have ha := Nat.div_add_mod a d
      have hb := Nat.div_add_mod b d
      rw [heq] at ha
      omega
    by_cases hup : d < 2 * (a % d) ∨ 2 * (a % d) = d ∧ t.raises (a / d)
    · have hup' : d < 2 * (b % d) ∨ 2 * (b % d) = d ∧ t.raises (b / d) := by
        rw [heq] at hup
        rcases hup with hup | ⟨hhalf, htie⟩
        · exact .inl (by omega)
        · by_cases hsame : b % d = a % d
          · exact .inr ⟨by omega, htie⟩
          · exact .inl (by omega)
      rw [show roundDiv t a d = a / d + 1 from if_pos hup, show roundDiv t b d = b / d + 1 from if_pos hup', heq]
    · rw [show roundDiv t a d = a / d from if_neg hup, heq]
      exact le_roundDiv t b d
  · exact Nat.le_trans (roundDiv_le t a d) (Nat.le_trans hlt (le_roundDiv t b d))

theorem two_pow_log2_le_roundTo53 {n : Nat} (hn : n ≠ 0) : 2 ^ n.log2 ≤ roundTo53 n := by
  have hk : n.log2 - 52 ≤ n.log2 := Nat.sub_le _ _
  calc 2 ^ n.log2 = 2 ^ (n.log2 - (n.log2 - 52)) * 2 ^ (n.log2 - 52) := by
        rw [← Nat.pow_add, Nat.sub_add_cancel hk]
    _ ≤ n / 2 ^ (n.log2 - 52) * 2 ^ (n.log2 - 52) := by
        refine Nat.mul_le_mul_right _ ((Nat.le_div_iff_mul_le (Nat.two_pow_pos _)).mpr ?_)
        rw [← Nat.pow_add, Nat.sub_add_cancel hk]
        exact Nat.log2_self_le hn
    _ ≤ roundTo53 n := Nat.mul_le_mul_right _ (le_roundDiv _ _ _)

theorem roundTo53_le_two_pow (n : Nat) : roundTo53 n ≤ 2 ^ (n.log2 + 1) := by
  have hk : n.log2 - 52 ≤ n.log2 + 1 := by omega
  calc roundTo53 n ≤ (n / 2 ^ (n.log2 - 52) + 1) * 2 ^ (n.log2 - 52) :=
        Nat.mul_le_mul_right _ (roundDiv_le _ _ _)
    _ ≤ 2 ^ (n.log2 + 1 - (n.log2 - 52)) * 2 ^ (n.log2 - 52) := by
        refine Nat.mul_le_mul_right _ ((Nat.div_lt_iff_lt_mul (Nat.two_pow_pos _)).mpr ?_)
        rw [← Nat.pow_add, Nat.sub_add_cancel hk]
        exact Nat.lt_log2_self
    _ = 2 ^ (n.log2 + 1) := by rw [← Nat.pow_add, Nat.sub_add_cancel hk]

/-- Rounding keeps the order. -/
theorem roundTo53_mono {a b : Nat} (h : a ≤ b) : roundTo53 a ≤ roundTo53 b := by
  by_cases ha : a = 0
  · subst ha
    exact Nat.zero_le _
  have hb : b ≠ 0 := by omega
  have hlog : a.log2 ≤ b.log2 := (Nat.le_log2 hb).mpr (Nat.le_trans (Nat.log2_self_le ha) h)
  obtain heq | hlt := Nat.eq_or_lt_of_le hlog
  · rw [roundTo53, roundTo53, heq]
    exact Nat.mul_le_mul_right _ (roundDiv_mono .toEven h _)
  · calc roundTo53 a ≤ 2 ^ (a.log2 + 1) := roundTo53_le_two_pow a
      _ ≤ 2 ^ b.log2 := Nat.pow_le_pow_right (by decide) hlt
      _ ≤ roundTo53 b := two_pow_log2_le_roundTo53 hb

/-! ## Doubles of natural numbers -/

/-- A number from 1 on is shifted up to 53 bits, if it has less, before it is rounded. -/
theorem ofUInt64_eq {n : UInt64} (hn : n.toNat ≠ 0) :
    UnpackedFloat.ofUInt64 Format.binary64 n =
      roundWithAccuracy Format.binary64 .positive (n.toNat <<< (52 - n.toNat.log2))
        (0 - (52 - n.toNat.log2 : Nat)) .exact := by
  have hshift : (0 - Format.binary64.targetExponent (totalExponent n.toNat 0)).toNat = 52 - n.toNat.log2 := by
    simp only [targetExponent_eq, totalExponent]
    omega
  unfold UnpackedFloat.ofUInt64 UnpackedFloat.ofNat UnpackedFloat.ofInt UnpackedFloat.normalize
  rw [Int.compare_eq_gt.mpr (by omega)]
  simp only [Int.toNat_natCast, UnpackedFloat.round, decreaseExponent, hshift]

/-- The double of a number from 1 on has 53 bits, and stands for the rounded number. -/
theorem exists_unpack_toFloat {n : UInt64} (hn : n.toNat ≠ 0) :
    ∃ m e hm, n.toFloat.toModel.unpack = .finite .positive m e hm ∧ m.log2 = 52 ∧ -52 ≤ e ∧ e ≤ 12 ∧
      m * 2 ^ (e + 52).toNat = roundTo53 n.toNat * 2 ^ 52 := by
  have h64 : n.toNat.log2 < 64 := log2_lt_of_lt (by decide) n.toNat_lt
  have hbits : (n.toNat <<< (52 - n.toNat.log2)).log2 = n.toNat.log2 + (52 - n.toNat.log2) := log2_shiftLeft hn _
  obtain ⟨m, e, hm, hrounded, hlog, hlow, hhigh, hvalue⟩ :=
    roundWithAccuracy_of_normal .positive (m := n.toNat <<< (52 - n.toNat.log2))
      (e := 0 - (52 - n.toNat.log2 : Nat)) .exact (by omega) (by simp only [totalExponent]; omega)
  rw [roundedMantissa_shiftRight] at hvalue
  simp only [totalExponent, hbits] at hlow hhigh hvalue
  refine ⟨m, e, hm, ?_, hlog, by omega, by omega, ?_⟩
  · show unpack Format.binary64 (pack Format.binary64 (UnpackedFloat.ofUInt64 Format.binary64 n)) = _
    rw [ofUInt64_eq hn, hrounded]
    exact unpack_pack_of_normal .positive hm hlog (by omega) (by omega)
  · have hexp : (e + 52).toNat = (e - (n.toNat.log2 - 52)).toNat + n.toNat.log2 := by omega
    have hshift : (e - (↑(n.toNat.log2 + (52 - n.toNat.log2)) + 1 + (0 - ↑(52 - n.toNat.log2)) - 53)).toNat =
        (e - (n.toNat.log2 - 52)).toNat := by omega
    rw [hshift] at hvalue
    rw [hexp, Nat.pow_add, ← Nat.mul_assoc, hvalue]
    rcases Nat.le_total n.toNat.log2 52 with hle | hle
    · rw [roundTo53_of_log2_le hle, show n.toNat.log2 + (52 - n.toNat.log2) - 52 = 0 by omega, Nat.pow_zero,
        roundDiv_one, Nat.shiftLeft_eq, Nat.mul_assoc, ← Nat.pow_add, Nat.sub_add_cancel hle]
    · rw [Nat.sub_eq_zero_of_le hle, Nat.shiftLeft_zero, Nat.add_zero, roundTo53, Nat.mul_assoc, ← Nat.pow_add,
        Nat.sub_add_cancel hle]

/-! ## Doubles of integers -/

/-- The number that the double of an integer stands for. -/
def roundIntTo53 (n : Int) : Int := if n < 0 then -(roundTo53 n.natAbs : Int) else roundTo53 n.natAbs

/-- Whether a zero or a number of 53 bits stands for an integer. -/
inductive StandsFor : UnpackedFloat → Int → Prop
  | zero (s : Sign) : StandsFor (.zero s) 0
  | positive {m v : Nat} {e : Int} {hm : 0 < m} (bits : m.log2 = 52) (low : -52 ≤ e)
      (value : m * 2 ^ (e + 52).toNat = v * 2 ^ 52) : StandsFor (.finite .positive m e hm) v
  | negative {m v : Nat} {e : Int} {hm : 0 < m} (bits : m.log2 = 52) (low : -52 ≤ e)
      (value : m * 2 ^ (e + 52).toNat = v * 2 ^ 52) : StandsFor (.finite .negative m e hm) (-v)

namespace StandsFor

theorem pos_of_value {m v : Nat} {e : Int} (hm : 0 < m) (h : m * 2 ^ (e + 52).toNat = v * 2 ^ 52) : 0 < v := by
  refine Nat.pos_of_ne_zero fun hv => ?_
  rw [hv, Nat.zero_mul] at h
  exact absurd h (Nat.ne_of_gt (Nat.mul_pos hm (Nat.two_pow_pos _)))

variable {m n v w : Nat} {e f : Int}

/-- Of two numbers of 53 bits the one with the greater exponent is greater, and so is the integer that it stands
for. -/
theorem lt_of_exponent_lt (hm : m.log2 = 52) (hn : n.log2 = 52) (he : -52 ≤ e)
    (hv : m * 2 ^ (e + 52).toNat = v * 2 ^ 52) (hw : n * 2 ^ (f + 52).toNat = w * 2 ^ 52) (h : e < f) : v < w := by
  have hm0 : m ≠ 0 := fun h => by simp [h] at hm
  have hn0 : n ≠ 0 := fun h => by simp [h] at hn
  refine Nat.lt_of_mul_lt_mul_right (a := 2 ^ 52) ?_
  calc v * 2 ^ 52 = m * 2 ^ (e + 52).toNat := hv.symm
    _ < 2 ^ 53 * 2 ^ (e + 52).toNat :=
      Nat.mul_lt_mul_of_pos_right ((Nat.log2_eq_iff hm0).mp hm).2 (Nat.two_pow_pos _)
    _ = 2 ^ 52 * 2 ^ ((e + 52).toNat + 1) := by
      rw [← Nat.pow_add, ← Nat.pow_add]
      congr 1
      omega
    _ ≤ 2 ^ 52 * 2 ^ (f + 52).toNat := Nat.mul_le_mul_left _ (Nat.pow_le_pow_right (by decide) (by omega))
    _ ≤ n * 2 ^ (f + 52).toNat := Nat.mul_le_mul_right _ ((Nat.log2_eq_iff hn0).mp hn).1
    _ = w * 2 ^ 52 := hw

theorem lt_of_mantissa_lt (hv : m * 2 ^ (e + 52).toNat = v * 2 ^ 52) (hw : n * 2 ^ (e + 52).toNat = w * 2 ^ 52)
    (h : m < n) : v < w := by
  refine Nat.lt_of_mul_lt_mul_right (a := 2 ^ 52) ?_
  rw [← hv, ← hw]
  exact Nat.mul_lt_mul_of_pos_right h (Nat.two_pow_pos _)

theorem compareKeys_positive (hm : m.log2 = 52) (hn : n.log2 = 52) (he : -52 ≤ e) (hf : -52 ≤ f)
    (hv : m * 2 ^ (e + 52).toNat = v * 2 ^ 52) (hw : n * 2 ^ (f + 52).toNat = w * 2 ^ 52) :
    compareKeys (1, e, m) (1, f, n) = compare (v : Int) (w : Int) := by
  rw [compareKeys_positive_eq, compare_natCast]
  rcases Int.lt_trichotomy e f with h | rfl | h
  · rw [Int.compare_eq_lt.mpr h, Nat.compare_eq_lt.mpr (lt_of_exponent_lt hm hn he hv hw h)]
    rfl
  · rw [Std.compare_self, Ordering.eq_then]
    rcases Nat.lt_trichotomy m n with h | rfl | h
    · rw [Nat.compare_eq_lt.mpr h, Nat.compare_eq_lt.mpr (lt_of_mantissa_lt hv hw h)]
    · rw [Std.compare_self, Nat.mul_right_cancel (Nat.two_pow_pos 52) (hv.symm.trans hw), Std.compare_self]
    · rw [Nat.compare_eq_gt.mpr h, Nat.compare_eq_gt.mpr (lt_of_mantissa_lt hw hv h)]
  · rw [Int.compare_eq_gt.mpr h, Nat.compare_eq_gt.mpr (lt_of_exponent_lt hn hm hf hw hv h)]
    rfl

/-- The keys of numbers that stand for integers are in the order of these. -/
theorem compareKeys_eq {a b : UnpackedFloat} {x y : Int} (ha : StandsFor a x) (hb : StandsFor b y) :
    compareKeys (orderKey a) (orderKey b) = compare x y := by
  cases ha with
  | zero =>
    cases hb with
    | zero => rfl
    | @positive n w f hn _ _ hw =>
      have hpos := pos_of_value hn hw
      exact (Int.compare_eq_lt.mpr (by omega)).symm
    | @negative n w f hn _ _ hw =>
      have hpos := pos_of_value hn hw
      exact (Int.compare_eq_gt.mpr (by omega)).symm
  | @positive m v e hm hbits hlow hv =>
    have hpos := pos_of_value hm hv
    cases hb with
    | zero => exact (Int.compare_eq_gt.mpr (by omega)).symm
    | positive hbits' hlow' hw => exact compareKeys_positive hbits hbits' hlow hlow' hv hw
    | @negative n w f hn _ _ hw =>
      have hpos' := pos_of_value hn hw
      exact (Int.compare_eq_gt.mpr (by omega)).symm
  | @negative m v e hm hbits hlow hv =>
    have hpos := pos_of_value hm hv
    cases hb with
    | zero => exact (Int.compare_eq_lt.mpr (by omega)).symm
    | @positive n w f hn _ _ hw =>
      have hpos' := pos_of_value hn hw
      exact (Int.compare_eq_lt.mpr (by omega)).symm
    | negative hbits' hlow' hw =>
      rw [compare_neg, ← compareKeys_positive hbits hbits' hlow hlow' hv hw]
      exact compareKeys_negative_eq _ _ _ _

end StandsFor

theorem standsFor_nearestDouble (n : Int64) : StandsFor (nearestDouble n).toModel.unpack (roundIntTo53 n.toInt) := by
  have hrange := n.toInt_lt
  have hrange' := n.le_toInt
  have hmagnitude : (UInt64.ofNat n.toInt.natAbs).toNat = n.toInt.natAbs :=
    UInt64.toNat_ofNat_of_lt' (by rw [UInt64.size]; omega)
  have hlt : n < 0 ↔ n.toInt < 0 := Int64.lt_iff_toInt_lt
  unfold nearestDouble roundIntTo53
  by_cases hzero : n.toInt.natAbs = 0
  · have h0 : n.toInt = 0 := by omega
    simp only [hlt, h0]
    exact .zero .positive
  · obtain ⟨m, e, hm, hunpack, hbits, hlow, hhigh, hvalue⟩ :=
      exists_unpack_toFloat (n := UInt64.ofNat n.toInt.natAbs) (by omega)
    rw [hmagnitude] at hvalue
    simp only [hlt]
    split
    · have hneg : (-(UInt64.ofNat n.toInt.natAbs).toFloat).toModel.unpack = .finite .negative m e hm := by
        show unpack Format.binary64 (pack Format.binary64
          (UnpackedFloat.neg (UInt64.ofNat n.toInt.natAbs).toFloat.toModel.unpack)) = _
        rw [hunpack]
        exact unpack_pack_of_normal .negative hm hbits (by omega) (by omega)
      rw [hneg]
      exact .negative hbits hlow hvalue
    · rw [hunpack]
      exact .positive hbits hlow hvalue

/-- The doubles of integers are compared like the rounded integers. -/
theorem compareDoubles_nearestDouble (a b : Int64) :
    compareDoubles (nearestDouble a) (nearestDouble b) = compare (roundIntTo53 a.toInt) (roundIntTo53 b.toInt) := by
  rw [compareDoubles_eq_compareKeys (isNaN_of_isFinite (isFinite_nearestDouble a))
    (isNaN_of_isFinite (isFinite_nearestDouble b))]
  exact (standsFor_nearestDouble a).compareKeys_eq (standsFor_nearestDouble b)

theorem roundIntTo53_mono {a b : Int} (h : a ≤ b) : roundIntTo53 a ≤ roundIntTo53 b := by
  unfold roundIntTo53
  split <;> split
  · have := roundTo53_mono (a := b.natAbs) (b := a.natAbs) (by omega)
    omega
  · omega
  · omega
  · have := roundTo53_mono (a := a.natAbs) (b := b.natAbs) (by omega)
    omega

theorem roundIntTo53_of_natAbs_le {n : Int} (h : n.natAbs ≤ 2 ^ 53) : roundIntTo53 n = n := by
  unfold roundIntTo53
  rw [roundTo53_of_le h]
  split <;> omega

end EntityMapping
