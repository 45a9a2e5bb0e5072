import EntityMapping.Proofs.Traced
import EntityMapping.Scalar

/-!
# Scalars that come back

What a plain field holds is read back from the value it is stored as. Natural numbers beyond the signed range come
back from their decimal text.

* `readUInt64_eq_ok_iff` — the texts from which a natural number is read
* `ScalarType.decode_encode` — a scalar is read from its value
-/

namespace EntityMapping

/-! ## Numbers as text -/

namespace Digit

theorem toChar_ne_plus (d : Digit) : d.toChar ≠ '+' := by
  revert d
  decide

/-- A character shows the digit that is written as it. -/
theorem ofChar?_eq_some_iff {c : Char} {d : Digit} : ofChar? c = some d ↔ d.toChar = c := by
  constructor
  · intro h
    unfold ofChar? at h
    split at h
    · next hrange =>
      obtain rfl := Option.some.inj h
      rw [toChar, Nat.add_sub_cancel' hrange.1, Char.ofNat_toNat]
    · simp at h
  · rintro rfl
    exact ofChar?_toChar d

end Digit

namespace Digits

theorem le_foldl (ds : List Digit) (n : Nat) : n ≤ ds.foldl (fun n d => 10 * n + d.val) n := by
  induction ds generalizing n with
  | nil => exact Nat.le_refl n
  | cons d ds ih => exact Nat.le_trans (by omega) (ih (10 * n + d.val))

theorem nil_eq_toChars_iff {ds : List Digit} : [] = toChars ds ↔ ds = [] := by
  rw [eq_comm, toChars, List.map_eq_nil_iff]

theorem cons_eq_toChars_iff {c : Char} {cs : List Char} {ds : List Digit} :
    c :: cs = toChars ds ↔ ∃ d ds', ds = d :: ds' ∧ Digit.ofChar? c = some d ∧ cs = toChars ds' := by
  simp only [Digit.ofChar?_eq_some_iff]
  rw [eq_comm, toChars, List.map_eq_cons_iff]
  exact exists₂_congr fun d ds' => and_congr_right fun _ => and_congr_right fun _ => eq_comm

end Digits

/-- What digits are read after others: all there are, if what they all write is within the limit. -/
theorem readDigits_eq_ok_iff {limit : Nat} {beyond : IntegerFault} {cs : List Char} {n m : Nat} (hn : n ≤ limit) :
    readDigits limit beyond n cs = .ok m ↔
      ∃ ds, cs = Digits.toChars ds ∧ ds.foldl (fun n d => 10 * n + d.val) n = m ∧ m ≤ limit := by
  induction cs generalizing n with
  | nil =>
    simp only [readDigits, Except.ok.injEq, Digits.nil_eq_toChars_iff, exists_eq_left, List.foldl_nil]
    exact ⟨fun h => ⟨h, h ▸ hn⟩, And.left⟩
  | cons c cs ih =>
    simp only [Digits.cons_eq_toChars_iff]
    rw [readDigits]
    split
    · next hnone =>
      refine iff_of_false nofun ?_
      rintro ⟨-, ⟨d, ds, -, hd, -⟩, -⟩
      simp [hnone] at hd
    · next d hd =>
      split
      -- a number that is beyond the limit stays there with every further digit
      · next hbeyond =>
        refine iff_of_false nofun ?_
        rintro ⟨-, ⟨d', ds, rfl, hd', -⟩, rfl, hle⟩
        obtain rfl : d = d' := Option.some.inj (hd.symm.trans hd')
        exact Nat.not_le.mpr hbeyond (Nat.le_trans (Digits.le_foldl ds _) hle)
      · next hle =>
        rw [ih (Nat.not_lt.mp hle)]
        constructor
        · rintro ⟨ds, hds, hvalue, hm⟩
          exact ⟨d :: ds, ⟨d, ds, rfl, hd, hds⟩, hvalue, hm⟩
        · rintro ⟨-, ⟨d', ds, rfl, hd', hds⟩, hvalue, hm⟩
          obtain rfl : d = d' := Option.some.inj (hd.symm.trans hd')
          exact ⟨ds, hds, hvalue, hm⟩

/-- At least one digit is read. -/
theorem readMagnitude_eq_ok_iff {limit : Nat} {beyond : IntegerFault} {cs : List Char} {n : Nat} :
    readMagnitude limit beyond cs = .ok n ↔
      ∃ ds, ds ≠ [] ∧ cs = Digits.toChars ds ∧ Digits.value ds = n ∧ n ≤ limit := by
  cases cs with
  | nil =>
    refine iff_of_false nofun ?_
    rintro ⟨ds, hne, hds, -⟩
    exact hne (Digits.nil_eq_toChars_iff.mp hds)
  | cons c cs =>
    rw [readMagnitude, readDigits_eq_ok_iff (Nat.zero_le limit)]
    · refine exists_congr fun ds => ⟨fun h => ⟨?_, h⟩, And.right⟩
      rintro rfl
      exact List.cons_ne_nil c cs h.1
    · exact List.cons_ne_nil c cs

/-- The texts of a natural number: digits that write it, and maybe a plus sign in front. -/
def WritesNatural (cs : List Char) (n : Nat) : Prop :=
  ∃ ds, ds ≠ [] ∧ (cs = Digits.toChars ds ∨ cs = '+' :: Digits.toChars ds) ∧ Digits.value ds = n

theorem writesNatural_ofNat (n : Nat) : WritesNatural (Digits.toChars (Digits.ofNat n)) n :=
  ⟨Digits.ofNat n, Digits.ofNat_ne_nil n, .inl rfl, Digits.value_ofNat n⟩

/-- A natural number is read from exactly the texts that write it, if it is within the limit. -/
theorem readNatural_eq_ok_iff {limit : Nat} {cs : List Char} {n : Nat} :
    readNatural limit cs = .ok n ↔ WritesNatural cs n ∧ n ≤ limit := by
  unfold readNatural
  split
  · refine iff_of_false nofun ?_
    rintro ⟨⟨ds, hne, hds | hds, -⟩, -⟩
    · exact hne (Digits.nil_eq_toChars_iff.mp hds)
    · simp at hds
  · next cs =>
    rw [readMagnitude_eq_ok_iff]
    constructor
    · rintro ⟨ds, hne, rfl, hvalue, hle⟩
      exact ⟨⟨ds, hne, .inr rfl, hvalue⟩, hle⟩
    · rintro ⟨⟨ds, hne, hds | hds, hvalue⟩, hle⟩
      -- a plus sign is no digit
      · obtain ⟨d, -, -, hd, -⟩ := Digits.cons_eq_toChars_iff.mp hds
        exact absurd (Digit.ofChar?_eq_some_iff.mp hd) d.toChar_ne_plus
      · exact ⟨ds, hne, (List.cons.inj hds).2, hvalue, hle⟩
  · next hplus =>
    rw [readMagnitude_eq_ok_iff]
    constructor
    · rintro ⟨ds, hne, hds, hvalue, hle⟩
      exact ⟨⟨ds, hne, .inl hds, hvalue⟩, hle⟩
    · rintro ⟨⟨ds, hne, hds | hds, hvalue⟩, hle⟩
      · exact ⟨ds, hne, hds, hvalue, hle⟩
      · exact absurd hds (hplus _)

/-- The natural numbers of 64 bits are read from exactly the texts that write them. -/
theorem readUInt64_eq_ok_iff {s : String} {n : UInt64} :
    readUInt64 s = .ok n ↔ WritesNatural s.toList n.toNat := by
  have hlt := n.toNat_lt
  rw [readUInt64]
  constructor
  · intro h
    cases hread : readNatural (2 ^ 64 - 1) s.toList with
    | error fault =>
      rw [hread] at h
      exact absurd h nofun
    | ok k =>
      obtain ⟨hwrites, hle⟩ := readNatural_eq_ok_iff.mp hread
      rw [hread] at h
      obtain rfl : UInt64.ofNat k = n := Except.ok.inj h
      rwa [UInt64.toNat_ofNat_of_lt' (Nat.lt_succ_of_le hle)]
  · intro h
    rw [readNatural_eq_ok_iff.mpr ⟨h, by omega⟩]
    simp [Except.map]

theorem readUInt64_naturalText (n : UInt64) : readUInt64 (naturalText n.toNat) = .ok n := by
  rw [readUInt64_eq_ok_iff, naturalText, Digits.text, String.toList_ofList]
  exact writesNatural_ofNat n.toNat

/-! ## Scalars -/

namespace ScalarType

/-- Whether something is what a field of the type can hold: numbers of single precision are held as doubles, and
only those that are of single precision are meant. -/
def Holds : (t : ScalarType) → t.Carrier → Prop
  | single, x => toSinglePrecision x = x
  | list item, xs => ∀ x ∈ xs, item.Holds x
  | _, _ => True

theorem decodeInteger_of_bounds {α : Type} {wanted : String} {low high : Int} {make : Int → α} {v : Value}
    {n : Int64} (hv : v.asInt64? = some n) (hlow : low ≤ n.toInt) (hhigh : n.toInt ≤ high) :
    decodeInteger wanted low high make v = .ok (make n.toInt) := by
  rw [decodeInteger, hv]
  exact if_pos ⟨hlow, hhigh⟩

theorem decodeNatural_encodeNatural (n : UInt64) : decodeNatural (encodeNatural n) = .ok n := by
  unfold encodeNatural
  split
  -- numbers in the signed range go through integers, the others through text
  · next h =>
    have hint : (Int64.ofNat n.toNat).toInt = n.toNat := Int64.toInt_ofNat_of_lt h
    rw [decodeNatural, decodeInteger_of_bounds (n := Int64.ofNat n.toNat) rfl (by omega) (by omega), hint]
    · simp
    · simp
  · simp only [decodeNatural, readUInt64_naturalText]

/-- **A scalar is read back from the value that it is stored as.** -/
theorem decode_encode (t : ScalarType) {x : t.Carrier} (h : t.Holds x) : t.decode (t.encode x) = .ok x := by
  induction t with
  | text | int64 | double | boolean | timestamp | date | uuid | value => rfl
  | int32 =>
    have hint := Int32.toInt_toInt64 x
    have hlow := Int32.le_toInt x
    have hhigh := Int32.toInt_lt x
    rw [encode, decode, decodeInteger_of_bounds (n := Int32.toInt64 x) rfl (by omega) (by omega), hint]
    simp
  | uint32 =>
    have hlt := UInt32.toNat_lt x
    have hint : (Int64.ofNat (UInt32.toNat x)).toInt = (UInt32.toNat x : Int) :=
      Int64.toInt_ofNat_of_lt (by omega)
    rw [encode, decode, decodeInteger_of_bounds (n := Int64.ofNat (UInt32.toNat x)) rfl (by omega) (by omega),
      hint]
    simp
  | uint64 => exact decodeNatural_encodeNatural x
  | single => simp [encode, decode, decodeKind, Value.asDouble?, show toSinglePrecision x = x from h]
  | list item ih =>
    rw [encode, decode, mapM_eq_ok, List.forall₂_map_left_iff]
    exact List.forall₂_same.mpr fun y hy => ih (h y hy)

/-! ## Integers -/

/-- Whether the numbers of a type are integers. -/
def IsInteger : ScalarType → Prop
  | int64 => True
  | int32 => True
  | uint32 => True
  | uint64 => True
  | _ => False

/-- The integer that something of an integer type is. -/
def toInt? : (t : ScalarType) → t.Carrier → Option Int
  | int64, n => some n.toInt
  | int32, n => some n.toInt
  | uint32, n => some n.toNat
  | uint64, n => some n.toNat
  | _, _ => none

theorem exists_toInt? {t : ScalarType} (h : t.IsInteger) (x : t.Carrier) : ∃ n, t.toInt? x = some n := by
  cases t with
  | int64 | int32 | uint32 | uint64 => exact ⟨_, rfl⟩
  | _ => exact h.elim

end ScalarType
end EntityMapping
