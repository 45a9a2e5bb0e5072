import EntityMapping.Number.Digits

/-!
# Reading written digits

Digits written in front of something that is no digit are cut off again exactly. Padding to a width makes a run
of that width, and does not change what it writes. Texts of one width are in the order of the numbers.
-/

namespace EntityMapping

namespace Digit

/-- A digit shows itself as one of ten characters. -/
theorem toNat_toChar (d : Digit) : d.toChar.toNat = 48 + d.val := by
  revert d
  decide

end Digit

namespace Digits

/-- The text does not go on with a digit. -/
def StopsBefore (cs : List Char) : Prop := ∀ c ∈ cs.head?, Digit.ofChar? c = none

@[simp] theorem stopsBefore_nil : StopsBefore [] := by simp [StopsBefore]

@[simp] theorem stopsBefore_cons {c : Char} {cs : List Char} :
    StopsBefore (c :: cs) ↔ Digit.ofChar? c = none := by
  simp [StopsBefore]

theorem split_of_stopsBefore {cs : List Char} (h : StopsBefore cs) : split cs = ([], cs) := by
  cases cs with
  | nil => rfl
  | cons c cs => simp [split, stopsBefore_cons.mp h]

/-- Written digits are cut off exactly. -/
theorem split_toChars_append (ds : List Digit) {cs : List Char} (h : StopsBefore cs) :
    split (toChars ds ++ cs) = (ds, cs) := by
  induction ds with
  | nil => exact split_of_stopsBefore h
  | cons d ds ih =>
    rw [toChars, List.map_cons, List.cons_append, split, Digit.ofChar?_toChar, ← toChars, ih]

theorem split_toChars (ds : List Digit) : split (toChars ds) = (ds, []) := by
  simpa using split_toChars_append ds stopsBefore_nil

@[simp] theorem length_toChars (ds : List Digit) : (toChars ds).length = ds.length := by
  simp [toChars]

/-- A written run of digits begins with the character of its first digit. -/
theorem exists_toChars_cons {ds : List Digit} (h : ds ≠ []) :
    ∃ (d : Digit) (cs : List Char), toChars ds = d.toChar :: cs := by
  cases ds with
  | nil => exact absurd rfl h
  | cons d ds => exact ⟨d, toChars ds, rfl⟩

/-! ## Leading zeros -/

/-- A positive number begins with a digit that is no zero. -/
theorem head?_ofNat_ne_zero {n : Nat} (h : 0 < n) : (ofNat n).head? ≠ some .zero := by
  induction n using ofNat.induct with
  | case1 n hn =>
    rw [ofNat, if_pos hn]
    simp only [List.head?_cons, ne_eq, Option.some.injEq, Digit.zero, Fin.ext_iff, Fin.val_ofNat]
    omega
  | case2 n hn ih =>
    rw [ofNat, if_neg hn, List.head?_append, Option.or_of_isSome (by simp [ofNat_ne_nil])]
    exact ih (by omega)

/-! ## Padding -/

theorem value_zero_cons (ds : List Digit) : value (.zero :: ds) = value ds := rfl

theorem value_padded (width n : Nat) : value (padded width n) = n := by
  simp only [padded]
  generalize width - (ofNat n).length = zeros
  induction zeros with
  | zero => exact value_ofNat n
  | succ zeros ih => rwa [List.replicate_succ, List.cons_append, value_zero_cons]

theorem padded_ne_nil (width n : Nat) : padded width n ≠ [] := by
  simp [padded, ofNat_ne_nil]

theorem length_ofNat_le {width n : Nat} (hw : 0 < width) (h : n < 10 ^ width) :
    (ofNat n).length ≤ width := by
  induction width generalizing n with
  | zero => exact absurd hw (by omega)
  | succ width ih =>
    rw [ofNat]
    split
    · simp
    · next hn =>
      rw [List.length_append, List.length_singleton]
      rw [Nat.pow_succ'] at h
      cases width with
      | zero => omega
      | succ width => exact Nat.succ_le_succ (ih (by omega) (by omega))

/-- A number that the width has room for is padded to just that width. -/
theorem length_padded {width n : Nat} (hw : 0 < width) (h : n < 10 ^ width) :
    (padded width n).length = width := by
  have := length_ofNat_le hw h
  simp only [padded, List.length_append, List.length_replicate]
  omega

/-! ## The order of texts -/

/-- The number that digits write behind those that wrote `n` is less than the next one with as many digits. -/
theorem foldl_lt (ds : List Digit) (n : Nat) :
    ds.foldl (fun n d => 10 * n + d.val) n < (n + 1) * 10 ^ ds.length := by
  induction ds generalizing n with
  | nil => simp
  | cons d ds ih =>
    calc ds.foldl (fun n d => 10 * n + d.val) (10 * n + d.val)
        < (10 * n + d.val + 1) * 10 ^ ds.length := ih _
      _ ≤ (n + 1) * 10 * 10 ^ ds.length := Nat.mul_le_mul_right _ (by omega)
      _ = (n + 1) * 10 ^ (d :: ds).length := by rw [List.length_cons, Nat.pow_succ', Nat.mul_assoc]

theorem le_foldl_pow (ds : List Digit) (n : Nat) :
    n * 10 ^ ds.length ≤ ds.foldl (fun n d => 10 * n + d.val) n := by
  induction ds generalizing n with
  | nil => simp
  | cons d ds ih =>
    calc n * 10 ^ (d :: ds).length = 10 * n * 10 ^ ds.length := by
          rw [List.length_cons, Nat.pow_succ', ← Nat.mul_assoc, Nat.mul_comm n]
      _ ≤ (10 * n + d.val) * 10 ^ ds.length := Nat.mul_le_mul_right _ (by omega)
      _ ≤ _ := ih _

theorem toChar_lt_toChar {d e : Digit} (h : d < e) : d.toChar < e.toChar := by
  revert d e
  decide

/-- Of equally many digits, those that write the lesser number come first as text. -/
theorem toChars_lt_toChars {ds es : List Digit} (hlength : ds.length = es.length) (n : Nat)
    (h : ds.foldl (fun n d => 10 * n + d.val) n < es.foldl (fun n d => 10 * n + d.val) n) :
    toChars ds < toChars es := by
  induction ds generalizing es n with
  | nil =>
    obtain rfl := List.eq_nil_of_length_eq_zero hlength.symm
    exact absurd h (Nat.lt_irrefl _)
  | cons d ds ih =>
    cases es with
    | nil => simp at hlength
    | cons e es =>
      have hlength' : ds.length = es.length := by simpa using hlength
      rw [toChars, toChars, List.map_cons, List.map_cons, List.cons_lt_cons_iff]
      rcases Nat.lt_trichotomy d.val e.val with hlt | heq | hgt
      · exact .inl (toChar_lt_toChar hlt)
      · obtain rfl := Fin.ext heq
        exact .inr ⟨rfl, ih hlength' _ h⟩
      · -- a greater first digit cannot be made up for
        have hless : es.foldl (fun n d => 10 * n + d.val) (10 * n + e.val) <
            ds.foldl (fun n d => 10 * n + d.val) (10 * n + d.val) :=
          calc _ < (10 * n + e.val + 1) * 10 ^ es.length := foldl_lt es _
            _ ≤ (10 * n + d.val) * 10 ^ ds.length := by
              rw [hlength']
              exact Nat.mul_le_mul_right _ (by omega)
            _ ≤ _ := le_foldl_pow ds _
        exact absurd h (Nat.lt_asymm hless)

end Digits

/-- Decimal texts of one length are in the order of the numbers. -/
theorem compare_naturalText {a b : Nat} (h : (naturalText a).length = (naturalText b).length) :
    compare (naturalText a) (naturalText b) = compare a b := by
  have hlt {a b : Nat} (h : (naturalText a).length = (naturalText b).length) (hab : a < b) :
      compare (naturalText a) (naturalText b) = .lt := by
    have hlength : (Digits.ofNat a).length = (Digits.ofNat b).length := by
      simpa [naturalText, Digits.text] using h
    have hless : naturalText a < naturalText b := by
      rw [String.lt_iff, naturalText, naturalText, Digits.text, Digits.text, String.toList_ofList,
        String.toList_ofList]
      refine Digits.toChars_lt_toChars hlength 0 ?_
      rw [← Digits.value, ← Digits.value, Digits.value_ofNat, Digits.value_ofNat]
      exact hab
    exact compareOfLessAndEq_eq_lt.mpr hless
  rcases Nat.lt_trichotomy a b with hab | rfl | hab
  · rw [hlt h hab, Nat.compare_eq_lt.mpr hab]
  · rw [Std.compare_self, Std.compare_self]
  · rw [Std.OrientedOrd.eq_swap, hlt h.symm hab, Nat.compare_eq_gt.mpr hab]
    rfl

end EntityMapping
