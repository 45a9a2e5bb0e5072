import EntityMapping.Number.Double
import Mathlib

/-!
# Finite doubles

Which operations on doubles stay finite. A rounded result overflows only through its exponent, so it is enough
to follow exponents: rounding raises an exponent at most one above the one that the result's magnitude asks
for (`roundWithAccuracy_exponent`).

* `isFinite_div` — dividing by a number from 8 on
* `isFinite_toFloat` — doubles of 64-bit numbers
* `unpack_pack_of_normal` — packing a number of 53 bits
-/

namespace EntityMapping

open Float.Model Float.Model.UnpackedFloat

/-! ## Binary logarithms -/

theorem log2_lt_of_lt {m k : Nat} (hk : 0 < k) (h : m < 2 ^ k) : m.log2 < k := by
  by_cases hm : m = 0
  · simpa [hm] using hk
  · exact (Nat.log2_lt hm).mpr h

theorem log2_shiftLeft {m : Nat} (h : m ≠ 0) (k : Nat) : (m <<< k).log2 = m.log2 + k := by
  induction k with
  | zero => rfl
  | succ k ih =>
    rw [Nat.shiftLeft_succ, Nat.log2_two_mul (by simpa using h), ih, Nat.add_assoc]

theorem log2_div_two_pow {m k : Nat} (hm : m ≠ 0) (hk : k ≤ m.log2) : (m / 2 ^ k).log2 = m.log2 - k := by
  have hlow : 2 ^ (m.log2 - k) ≤ m / 2 ^ k := by
    rw [Nat.le_div_iff_mul_le (Nat.two_pow_pos k), ← Nat.pow_add, Nat.sub_add_cancel hk]
    exact Nat.log2_self_le hm
  refine (Nat.log2_eq_iff (Nat.ne_of_gt (Nat.lt_of_lt_of_le (Nat.two_pow_pos _) hlow))).mpr ⟨hlow, ?_⟩
  rw [Nat.div_lt_iff_lt_mul (Nat.two_pow_pos k), ← Nat.pow_add]
  exact Nat.lt_of_lt_of_le Nat.lt_log2_self (Nat.pow_le_pow_right (by decide) (by omega))

theorem log2_div_add_le {a n : Nat} (h : a / n ≠ 0) : (a / n).log2 + n.log2 ≤ a.log2 := by
  have hn : n ≠ 0 := fun hn => h (by simp [hn])
  have ha : a ≠ 0 := fun ha => h (by simp [ha])
  refine (Nat.le_log2 ha).mpr ?_
  calc 2 ^ ((a / n).log2 + n.log2) = 2 ^ (a / n).log2 * 2 ^ n.log2 := Nat.pow_add ..
    _ ≤ a / n * n := Nat.mul_le_mul (Nat.log2_self_le h) (Nat.log2_self_le hn)
    _ ≤ a := Nat.div_mul_le_self a n

/-! ## Packing -/

/-- A double is finite unless its exponent is the greatest one. -/
theorem isFinite_unpack_iff (b : BitVec Format.binary64.numBits) :
    (unpack Format.binary64 b).isFinite = true ↔ unpackExponent b ≠ 2047#11 := by
  unfold UnpackedFloat.unpack
  by_cases h : unpackExponent b = 2047#11
  · by_cases hm : unpackMantissa b = 0#52 <;> simp [h, hm, UnpackedFloat.isFinite]
  · by_cases hz : unpackExponent b = 0#11
    · by_cases hm : unpackMantissa b = 0#52 <;> simp [hz, hm, UnpackedFloat.isFinite]
    · simp [h, hz, UnpackedFloat.isFinite]

theorem isNaN_unpack_iff (b : BitVec Format.binary64.numBits) :
    (unpack Format.binary64 b).isNaN = true ↔ unpackExponent b = 2047#11 ∧ unpackMantissa b ≠ 0#52 := by
  unfold UnpackedFloat.unpack
  by_cases h : unpackExponent b = 2047#11
  · by_cases hm : unpackMantissa b = 0#52 <;> simp [h, hm, UnpackedFloat.isNaN]
  · by_cases hz : unpackExponent b = 0#11
    · by_cases hm : unpackMantissa b = 0#52 <;> simp [hz, hm, UnpackedFloat.isNaN]
    · simp [h, hz, UnpackedFloat.isNaN]

/-- Whether a number can be packed without becoming infinite. -/
def Fits : UnpackedFloat → Prop
  | .zero _ => True
  | .finite _ _ e _ => e < 972
  | _ => False

theorem isFinite_unpack_pack {u : UnpackedFloat} (h : Fits u) :
    (unpack Format.binary64 (pack Format.binary64 u)).isFinite = true := by
  have hbias : (Format.binary64.exponentBias : Int) = 1023 := by decide
  rw [isFinite_unpack_iff]
  cases u with
  | infinity s => exact h.elim
  | notANumber => exact h.elim
  | zero s => simp [UnpackedFloat.pack, packedZero]
  | finite s m e hm =>
    have he : e < 972 := h
    simp only [UnpackedFloat.pack, hbias]
    rw [if_neg (by simp; omega)]
    split
    · -- the exponent is the biased one, which is below the greatest
      rw [unpackExponent_packComponents]
      intro heq
      have := congrArg BitVec.toNat heq
      simp at this
      omega
    · simp

/-- Packing makes no number into none. -/
theorem isNaN_unpack_pack {u : UnpackedFloat} (h : u ≠ .notANumber) :
    (unpack Format.binary64 (pack Format.binary64 u)).isNaN = false := by
  by_cases hu : Fits u
  · have := isFinite_unpack_pack hu
    rw [isFinite_unpack_iff] at this
    rw [Bool.eq_false_iff, Ne, isNaN_unpack_iff]
    exact fun hnan => this hnan.1
  · rw [Bool.eq_false_iff, Ne, isNaN_unpack_iff]
    have hinf (s : Sign) : unpackMantissa (packedInfinity Format.binary64 s) = 0#52 := by
      simp [packedInfinity]
    cases u with
    | infinity s => exact fun hnan => hnan.2 (hinf s)
    | notANumber => exact absurd rfl h
    | zero s => exact absurd trivial hu
    | finite s m e hm =>
      have hbias : (Format.binary64.exponentBias : Int) = 1023 := by decide
      have he : ¬ e < 972 := hu
      simp only [UnpackedFloat.pack, hbias]
      rw [if_pos (by simp; omega)]
      exact fun hnan => hnan.2 (hinf s)

/-! ## Rounding -/

theorem mantissa_shiftRight (em : ExtendedMantissa) (n : Nat) :
    (em >>> n).mantissa = em.mantissa / 2 ^ n := by
  change (n.repeat ExtendedMantissa.shiftRightOne em).mantissa = _
  induction n with
  | zero => simp [Nat.repeat]
  | succ n ih =>
    rw [Nat.repeat, ExtendedMantissa.shiftRightOne, ih, Nat.div_div_eq_div_mul, Nat.pow_succ]

theorem mantissa_ofMantissaAndAccuracy (m : Nat) (a : Accuracy) :
    (ExtendedMantissa.ofMantissaAndAccuracy m a).mantissa = m := by
  rcases a with _ | _ | _ | _ <;> rfl

theorem roundedMantissa_le (em : ExtendedMantissa) : em.roundedMantissa ≤ em.mantissa + 1 := by
  rcases em with ⟨m, r, s⟩
  cases r <;> cases s <;>
    simp only [ExtendedMantissa.roundedMantissa, ExtendedMantissa.accuracy, Accuracy.roundToNearestEven] <;> omega

theorem le_roundedMantissa (em : ExtendedMantissa) : em.mantissa ≤ em.roundedMantissa := by
  rcases em with ⟨m, r, s⟩
  cases r <;> cases s <;>
    simp only [ExtendedMantissa.roundedMantissa, ExtendedMantissa.accuracy, Accuracy.roundToNearestEven] <;> omega

/-- The exponent that a number of the given magnitude is written with. -/
theorem targetExponent_eq (t : Int) : Format.binary64.targetExponent t = max (t - 53) (-1074) := by
  simp [Format.targetExponent, Format.mantissaBits, Format.minExponent]

theorem shiftToTargetExponent_exponent (m : Nat) (e : Int) (a : Accuracy) :
    (shiftToTargetExponent Format.binary64 m e a).2 =
      max e (Format.binary64.targetExponent (totalExponent m e)) := by
  simp only [shiftToTargetExponent, shiftToExponent]
  omega

/-- What is left of the mantissa after shifting has at most 53 bits. -/
theorem shiftToTargetExponent_mantissa_lt (m : Nat) (e : Int) (a : Accuracy) :
    (shiftToTargetExponent Format.binary64 m e a).1.mantissa < 2 ^ 53 := by
  simp only [shiftToTargetExponent, shiftToExponent, mantissa_shiftRight, mantissa_ofMantissaAndAccuracy,
    targetExponent_eq, totalExponent]
  rw [Nat.div_lt_iff_lt_mul (Nat.two_pow_pos _), ← Nat.pow_add]
  exact Nat.lt_of_lt_of_le Nat.lt_log2_self (Nat.pow_le_pow_right (by decide) (by omega))

/-- Rounding raises an exponent at most one above the one that the magnitude asks for. -/
theorem roundWithAccuracy_exponent (s : Sign) (m : Nat) (e : Int) (a : Accuracy) :
    roundWithAccuracy Format.binary64 s m e a = .zero s ∨
      ∃ m' e' hm', roundWithAccuracy Format.binary64 s m e a = .finite s m' e' hm' ∧
        e' ≤ max e (Format.binary64.targetExponent (totalExponent m e)) + 1 := by
  simp only [roundWithAccuracy]
  split
  · exact .inl rfl
  · next hpos =>
    refine .inr ⟨_, _, Nat.pos_of_ne_zero hpos, rfl, ?_⟩
    clear hpos
    have hfirst := shiftToTargetExponent_exponent m e a
    have hm := shiftToTargetExponent_mantissa_lt m e a
    generalize shiftToTargetExponent Format.binary64 m e a = shifted at hfirst hm
    -- rounding up can carry into one more bit
    have hcarry : shifted.1.roundedMantissa.log2 < 54 :=
      log2_lt_of_lt (by decide) (Nat.lt_of_le_of_lt (roundedMantissa_le _) (by omega))
    simp only [shiftToTargetExponent_exponent, hfirst, targetExponent_eq, totalExponent]
    omega

/-- A rounded number fits when its magnitude and its exponent are small enough. -/
theorem fits_roundWithAccuracy (s : Sign) {m : Nat} {e : Int} (a : Accuracy) (he : e < 971)
    (ht : totalExponent m e < 1024) : Fits (roundWithAccuracy Format.binary64 s m e a) := by
  obtain h | ⟨m', e', hm', h, hle⟩ := roundWithAccuracy_exponent s m e a
  · rw [h]
    exact trivial
  · rw [targetExponent_eq] at hle
    rw [h]
    show e' < 972
    omega

theorem roundWithAccuracy_ne_notANumber (s : Sign) (m : Nat) (e : Int) (a : Accuracy) :
    roundWithAccuracy Format.binary64 s m e a ≠ .notANumber := by
  obtain h | ⟨m', e', hm', h, -⟩ := roundWithAccuracy_exponent s m e a <;> simp [h]

/-! ## Normal numbers -/

/-- A mantissa of 53 bits or more is shifted to 53 bits, unless that takes it below the smallest numbers. -/
theorem shiftToTargetExponent_of_normal {m : Nat} {e : Int} (a : Accuracy) (hm : 52 ≤ m.log2)
    (ht : -1021 ≤ totalExponent m e) :
    shiftToTargetExponent Format.binary64 m e a =
      (ExtendedMantissa.ofMantissaAndAccuracy m a >>> (m.log2 - 52), totalExponent m e - 53) := by
  have hshift : (Format.binary64.targetExponent (totalExponent m e) - e).toNat = m.log2 - 52 := by
    simp only [targetExponent_eq, totalExponent] at *
    omega
  simp only [shiftToTargetExponent, shiftToExponent, hshift, Prod.mk.injEq, true_and]
  simp only [totalExponent]
  omega

/-- What is left of a mantissa of 53 bits or more after shifting has 53 bits. -/
theorem log2_shiftRight_mantissa {m : Nat} (a : Accuracy) (hm : 52 ≤ m.log2) :
    (ExtendedMantissa.ofMantissaAndAccuracy m a >>> (m.log2 - 52)).mantissa.log2 = 52 := by
  have hpos : m ≠ 0 := fun h => by simp [h] at hm
  rw [mantissa_shiftRight, mantissa_ofMantissaAndAccuracy, log2_div_two_pow hpos (by omega)]
  omega

/-- A number of 53 bits, or the next one behind them, is written with 53 bits. -/
theorem div_two_pow_mul_two_pow {r : Nat} (hle : r ≤ 2 ^ 53) (hr : 52 ≤ r.log2) :
    r / 2 ^ (r.log2 - 52) * 2 ^ (r.log2 - 52) = r := by
  obtain rfl | hlt := Nat.eq_or_lt_of_le hle
  · decide
  · rw [show r.log2 = 52 by have := log2_lt_of_lt (by decide) hlt; omega]
    simp

/-- A mantissa of 53 bits or more is rounded to one of 53 bits, at the magnitude it has or the next one. -/
theorem roundWithAccuracy_of_normal (s : Sign) {m : Nat} {e : Int} (a : Accuracy) (hm : 52 ≤ m.log2)
    (ht : -1021 ≤ totalExponent m e) :
    ∃ m' e' hm', roundWithAccuracy Format.binary64 s m e a = .finite s m' e' hm' ∧ m'.log2 = 52 ∧
      totalExponent m e - 53 ≤ e' ∧ e' ≤ totalExponent m e - 52 ∧
      m' * 2 ^ (e' - (totalExponent m e - 53)).toNat =
        (ExtendedMantissa.ofMantissaAndAccuracy m a >>> (m.log2 - 52)).roundedMantissa := by
  have hlog := log2_shiftRight_mantissa a hm
  have hlt := shiftToTargetExponent_mantissa_lt m e a
  simp only [roundWithAccuracy]
  rw [shiftToTargetExponent_of_normal a hm ht] at hlt ⊢
  dsimp only at hlt ⊢
  generalize ExtendedMantissa.ofMantissaAndAccuracy m a >>> (m.log2 - 52) = first at hlog hlt
  have hup := roundedMantissa_le first
  have hdown := le_roundedMantissa first
  generalize first.roundedMantissa = r at hup hdown
  have hne : first.mantissa ≠ 0 := fun h => by simp [h] at hlog
  have hr : 52 ≤ r.log2 :=
    (Nat.le_log2 (by omega)).mpr (Nat.le_trans ((Nat.le_log2 hne).mp (Nat.le_of_eq hlog.symm)) hdown)
  have hr' : r.log2 < 54 := log2_lt_of_lt (by decide) (by omega)
  -- what rounding up carried into a further bit is shifted out again
  have hlog' := log2_shiftRight_mantissa (m := r) .exact hr
  rw [shiftToTargetExponent_of_normal .exact hr (by simp only [totalExponent] at *; omega)]
  rw [mantissa_shiftRight, mantissa_ofMantissaAndAccuracy] at *
  have hpos : r / 2 ^ (r.log2 - 52) ≠ 0 := fun h => by simp [h] at hlog'
  have hshift : (totalExponent r (totalExponent m e - 53) - 53 - (totalExponent m e - 53)).toNat = r.log2 - 52 := by
    simp only [totalExponent]
    omega
  refine ⟨_, _, Nat.pos_of_ne_zero hpos, dif_neg hpos, hlog', ?_, ?_, ?_⟩
  · simp only [totalExponent] at *
    omega
  · simp only [totalExponent] at *
    omega
  · rw [hshift]
    exact div_two_pow_mul_two_pow (by omega) hr

theorem toNat_one_append_pos {w : Nat} (f : BitVec w) : 0 < (1#1 ++ f).toNat := by
  simp

theorem unpack_of_normal {b : BitVec Format.binary64.numBits} (hzero : unpackExponent b ≠ 0#11)
    (hlast : unpackExponent b ≠ 2047#11) :
    unpack Format.binary64 b =
      .finite (Sign.ofBitVec (unpackSign b)) (1#1 ++ unpackMantissa b).toNat ((unpackExponent b).toNat - 1075)
        (toNat_one_append_pos _) := by
  have hbias : (Format.binary64.exponentBias : Int) = 1023 := by decide
  unfold UnpackedFloat.unpack
  simp [hzero, hlast, hbias]

theorem log2_one_append (f : BitVec 52) : (1#1 ++ f).toNat.log2 = 52 := by
  refine (Nat.log2_eq_iff (Nat.ne_of_gt (toNat_one_append_pos f))).mpr ⟨?_, (1#1 ++ f).isLt⟩
  rw [BitVec.toNat_append, ← Nat.shiftLeft_add_eq_or_of_lt f.isLt, Nat.shiftLeft_eq]
  exact Nat.le_add_right _ _

theorem pack_of_normal (s : Sign) {m : Nat} {e : Int} (hm : 0 < m) (hlog : m.log2 = 52) (he : e < 972) :
    pack Format.binary64 (.finite s m e hm) =
      packComponents Format.binary64 s (BitVec.ofNat 11 (e + 1075).toNat) (BitVec.ofNat 52 m) := by
  have hbias : (Format.binary64.exponentBias : Int) = 1023 := by decide
  have hbits : Format.binary64.mantissaBits = 53 := by decide
  have hbiased : e + 1023 + (52 : Nat) = e + 1075 := by omega
  simp only [UnpackedFloat.pack, hbias, hbiased, hlog, hbits]
  rw [if_neg (by simp; omega), if_pos trivial]

theorem unpackSign_packComponents {spec : Format} {s : Sign} {e : BitVec spec.exponentBits}
    {m : BitVec spec.mantissaBitsWithoutImplicit} : unpackSign (packComponents spec s e m) = s.toBitVec := by
  ext i hi
  obtain rfl : i = 0 := by omega
  simp [unpackSign, packComponents, BitVec.getLsbD_append, BitVec.getElem_append]

theorem ofBitVec_toBitVec (s : Sign) : Sign.ofBitVec s.toBitVec = s := by
  cases s <;> rfl

theorem toNat_one_append_ofNat {m : Nat} (hlog : m.log2 = 52) : (1#1 ++ BitVec.ofNat 52 m).toNat = m := by
  have hm : m ≠ 0 := fun h => by simp [h] at hlog
  obtain ⟨hlow, hhigh⟩ := (Nat.log2_eq_iff hm).mp hlog
  rw [BitVec.toNat_append, ← Nat.shiftLeft_add_eq_or_of_lt (BitVec.isLt _), Nat.shiftLeft_eq, BitVec.toNat_ofNat]
  simp
  omega

/-- A number of 53 bits, neither too small nor too large, is the same after packing. -/
theorem unpack_pack_of_normal (s : Sign) {m : Nat} {e : Int} (hm : 0 < m) (hlog : m.log2 = 52)
    (hlow : -1075 < e) (he : e < 972) :
    unpack Format.binary64 (pack Format.binary64 (.finite s m e hm)) = .finite s m e hm := by
  have hexp : (BitVec.ofNat 11 (e + 1075).toNat).toNat = (e + 1075).toNat := by
    rw [BitVec.toNat_ofNat]
    exact Nat.mod_eq_of_lt (by simp; omega)
  have hzero : BitVec.ofNat 11 (e + 1075).toNat ≠ 0#11 := fun h => by rw [h] at hexp; simp at hexp; omega
  have hlast : BitVec.ofNat 11 (e + 1075).toNat ≠ 2047#11 := fun h => by rw [h] at hexp; simp at hexp; omega
  rw [pack_of_normal s hm hlog he, unpack_of_normal (by simpa using hzero) (by simpa using hlast)]
  simp only [unpackExponent_packComponents, unpackMantissa_packComponents, unpackSign_packComponents,
    ofBitVec_toBitVec, UnpackedFloat.finite.injEq, true_and]
  exact ⟨toNat_one_append_ofNat hlog, by rw [hexp]; omega⟩

/-! ## Doubles -/

theorem unpack_cases_of_isFinite {b : BitVec Format.binary64.numBits}
    (h : (unpack Format.binary64 b).isFinite = true) :
    (∃ s, unpack Format.binary64 b = .zero s) ∨
      ∃ s m e hm, unpack Format.binary64 b = .finite s m e hm ∧ e < 972 ∧ totalExponent m e ≤ 1024 := by
  have hbias : (Format.binary64.exponentBias : Int) = 1023 := by decide
  have hexp := (isFinite_unpack_iff b).mp h
  have hle : (unpackExponent b).toNat ≤ 2046 := by
    have hlt : (unpackExponent b).toNat < 2 ^ 11 := (unpackExponent b).isLt
    have hne : (unpackExponent b).toNat ≠ 2047 := fun heq => hexp (BitVec.eq_of_toNat_eq heq)
    omega
  by_cases hz : unpackExponent b = 0#11
  · unfold UnpackedFloat.unpack
    by_cases hf : unpackMantissa b = 0#52
    · exact .inl ⟨Sign.ofBitVec (unpackSign b), by simp [hz, hf]⟩
    · refine .inr ⟨Sign.ofBitVec (unpackSign b), (unpackMantissa b).toNat, -1074, ?_, ?_, by decide, ?_⟩
      · exact Nat.pos_of_ne_zero fun h => hf (BitVec.eq_of_toNat_eq h)
      · simp [hz, hf, hbias]
      · have : (unpackMantissa b).toNat.log2 < 52 := log2_lt_of_lt (by decide) (unpackMantissa b).isLt
        simp only [totalExponent]
        omega
  · refine .inr ⟨_, _, _, _, unpack_of_normal hz hexp, by omega, ?_⟩
    rw [totalExponent, log2_one_append (unpackMantissa b)]
    omega

/-- A finite double is a zero, or a number below `2 ^ 1024`. -/
theorem exists_unpack_of_isFinite {x : Float} (h : x.isFinite = true) :
    (∃ s, x.toModel.unpack = .zero s) ∨
      ∃ s m e hm, x.toModel.unpack = .finite s m e hm ∧ e < 972 ∧ totalExponent m e ≤ 1024 :=
  unpack_cases_of_isFinite h

/-- A double is finite when it is neither infinite nor no number. -/
theorem isFinite_of_not {x : Float} (hinf : x.isInf = false) (hnan : x.isNaN = false) : x.isFinite = true := by
  simp only [Float.isInf, Float.isNaN, Float.isFinite, Float.Model.isInf, Float.Model.isNaN,
    Float.Model.isFinite] at *
  cases h : x.toModel.unpack <;> simp_all [UnpackedFloat.isInf, UnpackedFloat.isNaN, UnpackedFloat.isFinite]

theorem isFinite_neg {x : Float} (h : x.isFinite = true) : (-x).isFinite = true := by
  refine isFinite_unpack_pack (u := x.toModel.unpack.neg) ?_
  obtain ⟨s, hx⟩ | ⟨s, m, e, hm, hx, he, -⟩ := exists_unpack_of_isFinite h
  · rw [hx]
    exact trivial
  · rw [hx]
    exact he

/-- A product of finite doubles is a number, if an infinite one. -/
theorem isNaN_mul {x y : Float} (hx : x.isFinite = true) (hy : y.isFinite = true) : (x * y).isNaN = false := by
  refine isNaN_unpack_pack (u := UnpackedFloat.mul _ x.toModel.unpack y.toModel.unpack) ?_
  obtain ⟨s, hxu⟩ | ⟨s, m, e, hm, hxu, -, -⟩ := exists_unpack_of_isFinite hx <;>
    obtain ⟨t, hyu⟩ | ⟨t, n, f, hn, hyu, -, -⟩ := exists_unpack_of_isFinite hy <;>
    simp [hxu, hyu, UnpackedFloat.mul, roundWithAccuracy_ne_notANumber]

/-- Whether a number is finite and 8 or more in magnitude. -/
def atLeastEight : UnpackedFloat → Bool
  | .finite _ m e _ => 4 ≤ totalExponent m e
  | _ => false

theorem isFinite_of_atLeastEight {x : Float} (h : atLeastEight x.toModel.unpack = true) : x.isFinite = true := by
  show x.toModel.unpack.isFinite = true
  generalize x.toModel.unpack = u at h
  cases u <;> simp_all [atLeastEight, UnpackedFloat.isFinite]

/-- A finite double stays finite when it is divided by a number from 8 on. -/
theorem isFinite_div {x y : Float} (hx : x.isFinite = true) (hy : atLeastEight y.toModel.unpack = true) :
    (x / y).isFinite = true := by
  refine isFinite_unpack_pack (u := UnpackedFloat.div _ x.toModel.unpack y.toModel.unpack) ?_
  generalize y.toModel.unpack = divisor at hy ⊢
  cases divisor with
  | infinity _ | notANumber | zero _ => simp [atLeastEight] at hy
  | finite s n f hn =>
    have hlarge : 4 ≤ totalExponent n f := by simpa [atLeastEight] using hy
    obtain ⟨t, hxu⟩ | ⟨t, m, e, hm, hxu, he, ht⟩ := exists_unpack_of_isFinite hx
    · rw [hxu]
      exact trivial
    · rw [hxu]
      simp only [UnpackedFloat.div, divCore]
      refine fits_roundWithAccuracy _ _ ?_ ?_
      · rw [targetExponent_eq]
        omega
      · by_cases hq : (m <<< (e - f - min (e - f) (Format.binary64.targetExponent
            (totalExponent m e - totalExponent n f))).toNat) / n = 0
        · rw [hq, targetExponent_eq]
          simp only [totalExponent, Nat.log2_zero] at *
          omega
        · have hlog := log2_div_add_le hq
          rw [log2_shiftLeft (Nat.ne_of_gt hm)] at hlog
          simp only [totalExponent] at *
          omega

/-- The double of a 64-bit number is finite. -/
theorem isFinite_toFloat (n : UInt64) : n.toFloat.isFinite = true := by
  refine isFinite_unpack_pack (u := UnpackedFloat.ofUInt64 Format.binary64 n) ?_
  have hn : n.toNat.log2 < 64 := log2_lt_of_lt (by decide) n.toNat_lt
  unfold UnpackedFloat.ofUInt64 UnpackedFloat.ofNat UnpackedFloat.ofInt UnpackedFloat.normalize
  by_cases hzero : n.toNat = 0
  · simp only [hzero]
    exact trivial
  · rw [Int.compare_eq_gt.mpr (by omega)]
    simp only [Int.toNat_natCast, UnpackedFloat.round, decreaseExponent]
    refine fits_roundWithAccuracy _ _ (by omega) ?_
    rw [totalExponent, log2_shiftLeft hzero]
    simp only [targetExponent_eq, totalExponent]
    omega

/-- The double nearest to an integer is finite. -/
theorem isFinite_nearestDouble (n : Int64) : (nearestDouble n).isFinite = true := by
  unfold nearestDouble
  dsimp only
  split
  · exact isFinite_neg (isFinite_toFloat _)
  · exact isFinite_toFloat _

theorem isNaN_of_isFinite {x : Float} (h : x.isFinite = true) : x.isNaN = false := by
  show x.toModel.unpack.isNaN = false
  obtain ⟨s, hx⟩ | ⟨s, m, e, hm, hx, -, -⟩ := exists_unpack_of_isFinite h <;> rw [hx] <;> rfl

/-! ## What a double is written as -/

/-- The exact value of a double exists when the double is finite. -/
theorem isSome_ofFloat?_iff (x : Float) : (Dyadic.ofFloat? x).isSome = true ↔ x.isFinite = true := by
  have hfin : x.isFinite = true ↔ x.toBits.toNat / 2 ^ 52 % 2 ^ 11 ≠ 2047 := by
    refine (isFinite_unpack_iff x.toModel.toBits.toBitVec).trans (not_congr ?_)
    rw [← BitVec.toNat_inj]
    simp [unpackExponent, Nat.shiftRight_eq_div_pow, Float.toBits]
  rw [hfin]
  simp only [Dyadic.ofFloat?]
  split
  · next h => simp only [h, Option.isSome_none, Bool.false_eq_true, ne_eq, not_true]
  · next h => split <;> simp only [h, Option.isSome_some, ne_eq, not_false_eq_true]

end EntityMapping
