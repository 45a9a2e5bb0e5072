import EntityMapping.Value.Equality
import Mathlib

/-!
# Equality of plain values

A value is *plain* when it holds no other values and no records. On plain values equality can be turned round and
chained, which is what the search for a record by its id relies on. It is no equivalence all the same: a number
that is none differs from itself.
-/

namespace EntityMapping

open Float.Model (UnpackedFloat)

/-! ## Doubles -/

/-- Two doubles are equal when they are the same, except that a number that is none is not equal to itself and
that the two zeros are equal. -/
theorem unpacked_beq_iff (a b : UnpackedFloat) :
    a.beq b = true ↔ a ≠ .notANumber ∧ (a = b ∨ ∃ s t, a = .zero s ∧ b = .zero t) := by
  unfold UnpackedFloat.beq
  cases a with
  | notANumber => simp [UnpackedFloat.compare]
  | infinity s =>
    cases b with
    | infinity t => cases s <;> cases t <;> simp [UnpackedFloat.compare] <;> decide
    | _ => cases s <;> simp [UnpackedFloat.compare]
  | zero s =>
    cases b with
    | infinity t => cases t <;> simp [UnpackedFloat.compare]
    | finite t => cases t <;> simp [UnpackedFloat.compare]
    | _ => simp [UnpackedFloat.compare]
  | finite s =>
    cases b with
    | infinity t => cases s <;> cases t <;> simp [UnpackedFloat.compare]
    | finite t =>
      -- exponents are compared first, then mantissas
      cases s <;> cases t <;>
        simp [UnpackedFloat.compare, Ordering.then_eq_eq, Ordering.swap_eq_eq, and_comm]
    | _ => cases s <;> simp [UnpackedFloat.compare]

theorem beq_symm {x y : Float} (h : x.beq y = true) : y.beq x = true := by
  obtain ⟨hnan, heq | ⟨s, t, hx, hy⟩⟩ := (unpacked_beq_iff _ _).mp h
  · exact (unpacked_beq_iff _ _).mpr ⟨heq ▸ hnan, .inl heq.symm⟩
  · exact (unpacked_beq_iff _ _).mpr ⟨by simp [hy], .inr ⟨t, s, hy, hx⟩⟩

theorem beq_trans {x y z : Float} (hxy : x.beq y = true) (hyz : y.beq z = true) : x.beq z = true := by
  obtain ⟨hnan, hxy⟩ := (unpacked_beq_iff _ _).mp hxy
  obtain ⟨-, hyz⟩ := (unpacked_beq_iff _ _).mp hyz
  refine (unpacked_beq_iff _ _).mpr ⟨hnan, ?_⟩
  rcases hxy with hxy | ⟨s, t, hx, hy⟩
  · rw [hxy]
    exact hyz
  -- from one zero, equality leads to a zero only
  · rcases hyz with hyz | ⟨-, u, -, hz⟩
    · exact .inr ⟨s, t, hx, hyz ▸ hy⟩
    · exact .inr ⟨s, u, hx, hz⟩

/-! ## Values -/

namespace Value

/-- Whether a value holds no other values and no records. -/
def isPlain : Value → Bool
  | array _ => false
  | record _ => false
  | records _ => false
  | _ => true

theorem eqv_symm_of_isPlain {a b : Value} (ha : a.isPlain = true) (h : a.eqv b = true) : b.eqv a = true := by
  cases a with
  | array | record | records => simp [isPlain] at ha
  | float x =>
    cases b with
    | float y =>
      simp only [eqv] at h ⊢
      exact beq_symm h
    | _ => simp [eqv] at h
  | _ => cases b <;> simp_all [eqv]

theorem eqv_trans_of_isPlain {a b c : Value} (ha : a.isPlain = true) (hab : a.eqv b = true)
    (hbc : b.eqv c = true) : a.eqv c = true := by
  cases a with
  | array | record | records => simp [isPlain] at ha
  | float x =>
    cases b with
    | float y =>
      cases c with
      | float z =>
        simp only [eqv] at hab hbc ⊢
        exact beq_trans hab hbc
      | _ => simp [eqv] at hbc
    | _ => simp [eqv] at hab
  | _ => cases b <;> cases c <;> simp_all [eqv]

end Value
end EntityMapping
