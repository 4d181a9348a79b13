import Mathlib.Algebra.Order.Field.Basic
import Mathlib.Tactic.Linarith
import Mathlib.Tactic.Ring

/-! What is left of a value after so many roundings, each of which takes off at most a given part of it. -/

namespace TrxSimulator.Foundations.Losses

variable {K : Type*} [Field K] [LinearOrder K] {u c x x' y y' z : K} {n m : ℕ}

/-- What a single rounding may take. -/
structure Part (u : K) : Prop where
  nonneg : 0 ≤ u
  le_one : u ≤ 1

structure Left (u : K) (n : ℕ) (x y : K) : Prop where
  nonneg : 0 ≤ x
  bound : (1 - u) ^ n * x ≤ y

lemma left_self (hx : 0 ≤ x) : Left u 0 x x := ⟨hx, by simp⟩

lemma left_zero (u : K) (n : ℕ) : Left u n 0 0 := ⟨le_rfl, by simp⟩

section Roundings

variable [IsStrictOrderedRing K]

lemma Part.rest_nonneg (hu : Part u) : 0 ≤ 1 - u := sub_nonneg.mpr hu.le_one

lemma Part.rest_le_one (hu : Part u) : 1 - u ≤ 1 := sub_le_self 1 hu.nonneg

lemma Part.rest_pow_nonneg (hu : Part u) (n : ℕ) : 0 ≤ (1 - u) ^ n := pow_nonneg hu.rest_nonneg n

lemma Left.value_nonneg (hu : Part u) (h : Left u n x y) : 0 ≤ y :=
  (mul_nonneg (hu.rest_pow_nonneg n) h.nonneg).trans h.bound

lemma Left.weaken (hu : Part u) (h : Left u n x y) (hle : n ≤ m) : Left u m x y := by
  refine ⟨h.nonneg, le_trans ?_ h.bound⟩
  apply mul_le_mul_of_nonneg_right _ h.nonneg
  exact pow_le_pow_of_le_one hu.rest_nonneg hu.rest_le_one hle

lemma Left.round (hu : Part u) (h : Left u n x y) (hz : (1 - u) * y ≤ z) : Left u (n + 1) x z := by
  refine ⟨h.nonneg, le_trans ?_ hz⟩
  rw [pow_succ', mul_assoc]
  exact mul_le_mul_of_nonneg_left h.bound hu.rest_nonneg

lemma Left.mul (hu : Part u) (h : Left u n x y) (h' : Left u m x' y') : Left u (n + m) (x * x') (y * y') := by
  refine ⟨mul_nonneg h.nonneg h'.nonneg, ?_⟩
  have hrest : 0 ≤ (1 - u) ^ m * x' := mul_nonneg (hu.rest_pow_nonneg m) h'.nonneg
  calc (1 - u) ^ (n + m) * (x * x') = (1 - u) ^ n * x * ((1 - u) ^ m * x') := by
        rw [pow_add]
        ring
    _ ≤ y * y' := mul_le_mul h.bound h'.bound hrest (h.value_nonneg hu)

lemma Left.add (h : Left u n x y) (h' : Left u n x' y') : Left u n (x + x') (y + y') := by
  refine ⟨add_nonneg h.nonneg h'.nonneg, ?_⟩
  rw [mul_add]
  exact add_le_add h.bound h'.bound

lemma Left.scale (h : Left u n x y) (hc : 0 ≤ c) : Left u n (x * c) (y * c) := by
  refine ⟨mul_nonneg h.nonneg hc, ?_⟩
  rw [← mul_assoc]
  exact mul_le_mul_of_nonneg_right h.bound hc

lemma Left.divide (h : Left u n x y) (hc : 0 ≤ c) : Left u n (x / c) (y / c) := by
  rw [div_eq_mul_inv, div_eq_mul_inv]
  exact h.scale (inv_nonneg.mpr hc)

end Roundings

end TrxSimulator.Foundations.Losses
