import EntityMapping.Store.Order
import Mathlib

/-!
# The order of doubles

Doubles are compared as numbers, and one that is no number is equal to all. Among those that are numbers, the
comparison is one of keys, part by part, so it is a total preorder there.

* `compareDoubles_eq` — the comparison as one of unpacked doubles
* `compareDoubles_of_isNaN` — a number that is none
* `compareDoubles_eq_compareKeys` — the keys of numbers
-/

namespace EntityMapping

open Float.Model (UnpackedFloat)

/-! ## Integers -/

theorem compare_neg (m n : Int) : compare (-m) (-n) = (compare m n).swap := by
  rcases lt_trichotomy m n with h | rfl | h
  · rw [Int.compare_eq_lt.mpr h, Int.compare_eq_gt.mpr (by omega)]
    rfl
  · simp
  · rw [Int.compare_eq_gt.mpr h, Int.compare_eq_lt.mpr (by omega)]
    rfl

theorem compare_natCast (m n : Nat) : compare (m : Int) (n : Int) = compare m n := by
  rcases lt_trichotomy m n with h | rfl | h
  · rw [Nat.compare_eq_lt.mpr h, Int.compare_eq_lt.mpr (by omega)]
  · simp
  · rw [Nat.compare_eq_gt.mpr h, Int.compare_eq_gt.mpr (by omega)]

/-! ## Keys -/

/-- What a number is compared by: its place among the infinities, the signs and zero, then its exponent and then its
mantissa. The exponent and the mantissa of a negative number count the other way. -/
def orderKey : UnpackedFloat → Int × Int × Int
  | .infinity .negative => (-2, 0, 0)
  | .finite .negative m e _ => (-1, -e, -m)
  | .zero _ => (0, 0, 0)
  | .notANumber => (0, 0, 0)
  | .finite .positive m e _ => (1, e, m)
  | .infinity .positive => (2, 0, 0)

/-- The order of keys: the first part in which they differ decides. -/
def compareKeys : Int × Int × Int → Int × Int × Int → Ordering :=
  compareLex (compareOn Prod.fst) (compareLex (compareOn fun k => k.2.1) (compareOn fun k => k.2.2))

instance : Std.TransCmp compareKeys :=
  inferInstanceAs (Std.TransCmp (compareLex _ (compareLex _ _)))

theorem compareKeys_positive_eq (m n : Nat) (e f : Int) :
    compareKeys (1, e, m) (1, f, n) = (compare e f).then (compare m n) := by
  simp [compareKeys, compareLex, compareOn, compare_natCast]

theorem compareKeys_negative_eq (m n : Nat) (e f : Int) :
    compareKeys (-1, -e, -m) (-1, -f, -n) = (compareKeys (1, e, m) (1, f, n)).swap := by
  simp [compareKeys, compareLex, compareOn, compare_neg, Ordering.swap_then]

theorem unpacked_compare_eq {a b : UnpackedFloat} (ha : a ≠ .notANumber) (hb : b ≠ .notANumber) :
    a.compare b = some (compareKeys (orderKey a) (orderKey b)) := by
  rcases a with ⟨_ | _⟩ | _ | _ | ⟨_ | _, m, e, -⟩ <;> rcases b with ⟨_ | _⟩ | _ | _ | ⟨_ | _, n, f, -⟩
  all_goals first
    | exact absurd rfl ha
    | exact absurd rfl hb
    | rfl
    | simp [UnpackedFloat.compare, orderKey, compareKeys_negative_eq, compareKeys_positive_eq]

theorem unpacked_compare_of_notANumber {a b : UnpackedFloat} (h : a = .notANumber ∨ b = .notANumber) :
    a.compare b = none := by
  rcases h with rfl | rfl
  · rfl
  · rcases a with ⟨_ | _⟩ | _ | _ | ⟨_ | _⟩ <;> rfl

theorem unpacked_compare_swap (a b : UnpackedFloat) : b.compare a = (a.compare b).map Ordering.swap := by
  by_cases h : a = .notANumber ∨ b = .notANumber
  · rw [unpacked_compare_of_notANumber h, unpacked_compare_of_notANumber h.symm]
    rfl
  · obtain ⟨ha, hb⟩ := not_or.mp h
    rw [unpacked_compare_eq ha hb, unpacked_compare_eq hb ha, Option.map_some,
      ← Std.OrientedCmp.eq_swap]

/-! ## Doubles -/

theorem float_lt_iff (x y : Float) : x < y ↔ x.toModel.unpack.compare y.toModel.unpack = some .lt := by
  show decide (x.toModel < y.toModel) = true ↔ _
  rw [decide_eq_true_iff]
  show (x.toModel.unpack.compare y.toModel.unpack == some .lt) = true ↔ _
  rw [beq_iff_eq]

/-- Doubles are compared as they are unpacked, and are equal if that gives no answer. -/
theorem compareDoubles_eq (x y : Float) :
    compareDoubles x y = (x.toModel.unpack.compare y.toModel.unpack).getD .eq := by
  simp only [compareDoubles, float_lt_iff, unpacked_compare_swap x.toModel.unpack y.toModel.unpack]
  cases x.toModel.unpack.compare y.toModel.unpack with
  | none => rfl
  | some o => cases o <;> rfl

theorem isNaN_iff (x : Float) : x.isNaN = true ↔ x.toModel.unpack = .notANumber := by
  show x.toModel.unpack.isNaN = true ↔ _
  cases x.toModel.unpack <;> simp [UnpackedFloat.isNaN]

/-- What is no number is equal to everything. -/
theorem compareDoubles_of_isNaN {x y : Float} (h : x.isNaN = true ∨ y.isNaN = true) : compareDoubles x y = .eq := by
  rw [isNaN_iff, isNaN_iff] at h
  rw [compareDoubles_eq, unpacked_compare_of_notANumber h, Option.getD_none]

/-- Numbers are compared by their keys. -/
theorem compareDoubles_eq_compareKeys {x y : Float} (hx : x.isNaN = false) (hy : y.isNaN = false) :
    compareDoubles x y = compareKeys (orderKey x.toModel.unpack) (orderKey y.toModel.unpack) := by
  rw [Bool.eq_false_iff, Ne, isNaN_iff] at hx hy
  rw [compareDoubles_eq, unpacked_compare_eq hx hy, Option.getD_some]

end EntityMapping
