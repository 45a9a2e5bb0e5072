import EntityMapping.Json.Numeral
import EntityMapping.Proofs.Number.Digits
import EntityMapping.Proofs.Number.Finite

/-!
# Reading written numerals

A numeral with the digits that its parts ask for reads back as itself (`read?_toChars`), and so do the numerals
of integers and decimals. As a double, a numeral is never infinite and never no number: one that is too large is
refused (`isFinite_of_toDouble?`).
-/

namespace EntityMapping
namespace Json
namespace Numeral

open Digits

/-- A numeral with digits before the point, no leading zero, and digits in an exponent that it has. -/
structure WellFormed (n : Numeral) : Prop where
  whole_ne_nil : n.whole ≠ []
  no_leading_zero : n.whole.head? = some .zero → n.whole = [.zero]
  exponent_ne_nil : ∀ e ∈ n.exponent, e.2 ≠ []

/-! ## Reading -/

/-- The characters of the exponent of a numeral. -/
def exponentChars : Option (Bool × List Digit) → List Char
  | none => []
  | some (negative, ds) => 'e' :: (if negative then '-' else '+') :: Digits.toChars ds

theorem readExponent?_exponentChars {e : Option (Bool × List Digit)} (h : ∀ p ∈ e, p.2 ≠ []) :
    readExponent? (exponentChars e) = some e := by
  cases e with
  | none => rfl
  | some p =>
    obtain ⟨negative, ds⟩ := p
    have hne : ds ≠ [] := h _ rfl
    cases ds with
    | nil => exact absurd rfl hne
    | cons d ds => cases negative <;> simp [exponentChars, readExponent?, split_toChars]

theorem stopsBefore_exponentChars (e : Option (Bool × List Digit)) : StopsBefore (exponentChars e) := by
  rcases e with _ | ⟨negative, ds⟩
  · exact stopsBefore_nil
  · exact stopsBefore_cons.mpr (by decide)

/-- What stands behind the sign of a numeral. -/
theorem readUnsigned?_toChars {n : Numeral} (h : n.WellFormed) (negative : Bool) :
    readUnsigned? negative (Digits.toChars n.whole ++
      ((if n.fraction.isEmpty then [] else '.' :: Digits.toChars n.fraction) ++ exponentChars n.exponent)) =
      some { n with negative := negative } := by
  obtain ⟨negative', whole, fraction, exponent⟩ := n
  have hexp := readExponent?_exponentChars h.exponent_ne_nil
  have hstop := stopsBefore_exponentChars exponent
  cases whole with
  | nil => exact absurd rfl h.whole_ne_nil
  | cons d ds =>
    have hzero : ¬ (d = .zero ∧ ¬ ds.isEmpty) := fun hz => by
      have := h.no_leading_zero (by simp [hz.1])
      simp_all
    cases fraction with
    | nil =>
      have hsplit := split_toChars_append (d :: ds) hstop
      simp only [List.isEmpty_nil, if_true, List.nil_append, readUnsigned?, hsplit, if_neg hzero]
      split
      · next hdot =>
        -- an exponent does not begin with a point
        rcases exponent with _ | ⟨negative, es⟩ <;> simp [exponentChars] at hdot
      · simp [hexp]
    | cons f fs =>
      have hpoint : StopsBefore ('.' :: (Digits.toChars (f :: fs) ++ exponentChars exponent)) :=
        stopsBefore_cons.mpr (by decide)
      have hsplit := split_toChars_append (d :: ds) hpoint
      simp only [List.isEmpty_cons, Bool.false_eq_true, if_false, List.cons_append, readUnsigned?, hsplit,
        if_neg hzero, split_toChars_append (f :: fs) hstop, hexp, Option.map_some]

theorem toChars_eq (n : Numeral) :
    n.toChars = (if n.negative then ['-'] else []) ++ (Digits.toChars n.whole ++
      ((if n.fraction.isEmpty then [] else '.' :: Digits.toChars n.fraction) ++ exponentChars n.exponent)) := by
  rw [toChars, List.append_assoc, List.append_assoc]
  rfl

/-- A written numeral reads back. -/
theorem read?_toChars {n : Numeral} (h : n.WellFormed) : read? n.toChars = some n := by
  have hread (negative : Bool) := readUnsigned?_toChars h negative
  rw [toChars_eq]
  cases hn : n.negative with
  | true =>
    rw [if_pos rfl, List.singleton_append, read?, hread, ← hn]
  | false =>
    rw [if_neg (by decide), List.nil_append]
    have := hread false
    obtain ⟨d, cs, hd⟩ := exists_toChars_cons h.whole_ne_nil
    rw [hd, List.cons_append] at this ⊢
    rw [read?, this, ← hn]
    -- a digit is no minus sign
    intro cs' heq
    have := Digit.toNat_toChar d
    rw [(List.cons.inj heq).1] at this
    simp at this
    omega

/-! ## Integers -/

theorem wellFormed_ofInt (n : Int) : (ofInt n).WellFormed where
  whole_ne_nil := ofNat_ne_nil _
  no_leading_zero h := by
    simp only [ofInt] at h ⊢
    obtain hzero | hpos := Nat.eq_zero_or_pos n.natAbs
    · rw [hzero, ofNat, if_pos (by decide)]
      rfl
    · exact absurd h (head?_ofNat_ne_zero hpos)
  exponent_ne_nil e he := by simp [ofInt] at he

/-- The numeral of an integer of 64 bits, with or without sign, is that integer. -/
theorem toInt?_ofInt {n : Int} (hlow : -2 ^ 63 ≤ n) (hhigh : n < 2 ^ 64) : (ofInt n).toInt? = some n := by
  simp only [toInt?, ofInt, List.isEmpty_nil, not_true, Option.isSome_none, Bool.false_eq_true, or_self,
    if_false, value_ofNat, decide_eq_true_eq]
  split
  · rw [if_pos (by omega)]
    congr 1
    omega
  · rw [if_pos (by omega)]
    congr 1
    omega

/-! ## Decimals -/

/-- Digits of which the first is no zero, as the whole part of a numeral. -/
theorem head?_append_ne_zero {ds : List Digit} (hne : ds ≠ []) (h : ds.head? ≠ some .zero) (es : List Digit) :
    (ds ++ es).head? ≠ some .zero := by
  cases ds with
  | nil => exact absurd rfl hne
  | cons d ds => exact h

/-- The part before the point has no leading zero, and is zero when nothing stands there. -/
theorem whole_positional {d : Decimal} (h : 0 < d.coefficient) :
    d.positional.1 = [.zero] ∨ d.positional.1 ≠ [] ∧ d.positional.1.head? ≠ some .zero := by
  have hne := ofNat_ne_nil d.coefficient
  have hhead := head?_ofNat_ne_zero h
  unfold Decimal.positional
  simp only
  generalize ofNat d.coefficient = ds at hne hhead ⊢
  split
  · exact .inr ⟨by simp [hne], head?_append_ne_zero hne hhead _⟩
  · split
    · next hplaces =>
      right
      cases ds with
      | nil => exact absurd rfl hne
      | cons c cs =>
        obtain ⟨k, hk⟩ : ∃ k, (c :: cs).length - d.exponent.natAbs = k + 1 :=
          ⟨(c :: cs).length - d.exponent.natAbs - 1, by omega⟩
        rw [hk, List.splitAt_eq, List.take_succ_cons]
        exact ⟨by simp, by simpa using hhead⟩
    · exact .inl rfl

theorem wellFormed_ofDecimal (negative : Bool) (d : Decimal) : (ofDecimal negative d).WellFormed := by
  unfold ofDecimal
  split
  · exact ⟨by simp, by simp, by simp⟩
  · next hzero =>
    have hpos := Nat.pos_of_ne_zero hzero
    split
    · obtain h | ⟨hne, hhead⟩ := whole_positional hpos
      · exact ⟨by simp [h], by simp [h], by simp⟩
      · exact ⟨hne, fun h => absurd h hhead, by simp⟩
    · have hhead := head?_ofNat_ne_zero hpos
      have hne := ofNat_ne_nil d.coefficient
      generalize ofNat d.coefficient = ds at hne hhead ⊢
      cases ds with
      | nil => exact absurd rfl hne
      | cons c cs => exact ⟨by simp, fun h => absurd h hhead, by simp [ofNat_ne_nil]⟩

/-! ## Numerals as doubles -/

open Float.Model Float.Model.UnpackedFloat

theorem log2_ten_pow {k : Nat} (hpos : 0 < k) (hk : k < 308) : 3 ≤ (10 ^ k).log2 ∧ (10 ^ k).log2 < 1023 := by
  have hlow : 10 ^ 1 ≤ 10 ^ k := Nat.pow_le_pow_right (by decide) hpos
  refine ⟨(Nat.le_log2 (by omega)).mpr (Nat.le_trans (by decide) hlow), log2_lt_of_lt (by decide) ?_⟩
  exact Nat.lt_of_le_of_lt (Nat.pow_le_pow_right (by decide) (Nat.le_of_lt_succ hk)) (by decide +kernel)

/-- Larger powers of ten are the rounded products of `2 ^ 53 · 10 ^ k` and `2 ^ -53`. -/
theorem powerOfTen_eq {k : Nat} (hk : 22 < k) (hk' : k ≤ 308) :
    powerOfTen k = .ofModel (.pack (roundWithAccuracy Format.binary64 (.positive * .positive)
      (1 <<< 53 * 10 ^ k) (-53 + 0) .exact)) := by
  have hbits : Format.binary64.mantissaBits = 53 := by decide
  rw [powerOfTen, Float.ofScientific, dif_neg (by omega)]
  simp only [Float.Model.ofScientific, UnpackedFloat.ofScientific, Bool.false_eq_true, if_false, hbits]
  rw [dif_neg (by decide), if_neg (by simp; omega), if_neg (by simp; omega), if_pos (by simp)]
  simp only [UnpackedFloat.mul]
  rfl

theorem atLeastEight_powerOfTen {k : Nat} (hpos : 0 < k) (hk : k ≤ 308) :
    atLeastEight (powerOfTen k).toModel.unpack = true := by
  by_cases hedge : k ≤ 22 ∨ k = 308
  · have hall : ∀ k ∈ 308 :: List.range' 1 22, atLeastEight (powerOfTen k).toModel.unpack = true := by
      decide +kernel
    exact hall k (by simp; omega)
  have hlog := log2_ten_pow hpos (by omega)
  have hmul : (1 <<< 53 * 10 ^ k).log2 = (10 ^ k).log2 + 53 := by
    rw [Nat.shiftLeft_eq, Nat.mul_comm, Nat.one_mul, ← Nat.shiftLeft_eq,
      log2_shiftLeft (Nat.ne_of_gt (Nat.pow_pos (by decide)))]
  obtain ⟨m, e, hm, hround, h52, hlow, hhigh, -⟩ := roundWithAccuracy_of_normal (.positive * .positive)
    (m := 1 <<< 53 * 10 ^ k) (e := -53 + 0) .exact (by omega) (by simp only [totalExponent]; omega)
  simp only [totalExponent, hmul] at hlow hhigh
  rw [powerOfTen_eq (by omega) hk, hround]
  show atLeastEight (unpack Format.binary64 (pack Format.binary64 (.finite _ m e hm))) = true
  rw [unpack_pack_of_normal _ hm h52 (by omega) (by omega)]
  simp only [atLeastEight, totalExponent, h52, decide_eq_true_eq]
  omega

theorem isFinite_powerOfTen {k : Nat} (hk : k ≤ 308) : (powerOfTen k).isFinite = true := by
  obtain rfl | hpos := Nat.eq_zero_or_pos k
  · decide +kernel
  · exact isFinite_of_atLeastEight (atLeastEight_powerOfTen hpos hk)

theorem isFinite_scaleDown {x : Float} (h : x.isFinite = true) {k : Nat} (hpos : 0 < k) :
    (scaleDown x k).isFinite = true := by
  induction x, k using scaleDown.induct with
  | case1 x k hk =>
    rw [scaleDown, if_pos hk]
    exact isFinite_div h (atLeastEight_powerOfTen hpos hk)
  | case2 x k hk hzero =>
    rw [scaleDown, if_neg hk, if_pos hzero]
    exact h
  | case3 x k hk hzero ih =>
    rw [scaleDown, if_neg hk, if_neg hzero]
    exact ih (isFinite_div h (atLeastEight_powerOfTen (by decide) (by decide))) (by omega)

theorem isFinite_of_scale? {significand : Nat} {exponent : Int} {x : Float}
    (h : scale? significand exponent = some x) : x.isFinite = true := by
  have hx := isFinite_toFloat (UInt64.ofNat significand)
  simp only [scale?] at h
  split at h
  · obtain rfl := Option.some.inj h
    exact isFinite_scaleDown hx (by omega)
  split at h
  · split at h
    · exact absurd h (by simp)
    · next hinf =>
      obtain rfl := Option.some.inj h
      exact isFinite_of_not (by simpa using hinf) (isNaN_mul hx (isFinite_powerOfTen (by omega)))
  split at h
  · obtain rfl := Option.some.inj h
    exact hx
  · exact absurd h (by simp)

theorem isFinite_of_magnitude? {n : Numeral} {x : Float} (h : n.magnitude? = some x) : x.isFinite = true := by
  simp only [magnitude?] at h
  split at h
  · exact isFinite_of_scale? h
  split at h
  · exact isFinite_of_scale? h
  split at h
  · obtain rfl := Option.some.inj h
    decide +kernel
  · exact absurd h (by simp)

/-- A numeral that is read as a double is read as a finite one. -/
theorem isFinite_of_toDouble? {n : Numeral} {x : Float} (h : n.toDouble? = some x) : x.isFinite = true := by
  obtain ⟨y, hy, rfl⟩ := Option.map_eq_some_iff.mp h
  have hfinite := isFinite_of_magnitude? hy
  split
  · exact isFinite_neg hfinite
  · exact hfinite

end Numeral
end Json
end EntityMapping
