import Mathlib
import ProjectedNewton.Proofs.Scalar.Lawful

/-!
# The solver in exact arithmetic

The real numbers are scalars, so that the solver runs on them: with exact operations and tests, and
without NaN. The lemmas of this file say what the derived operations are in terms of the order and
the sums of Mathlib.
-/

namespace ProjectedNewton

open Scalar

noncomputable instance : Scalar ℝ where
  half := 1 / 2
  sqrt := Real.sqrt
  abs a := |a|
  lt a b := decide (a < b)
  eq a b := decide (a = b)

namespace Exact

variable {a b v l u : ℝ} {n : ℕ}

/-! ## Tests -/

@[simp] theorem lt_iff : lt a b ↔ a < b := decide_eq_true_iff

@[simp] theorem eq_iff : eq a b ↔ a = b := decide_eq_true_iff

@[simp] theorem le_iff : le a b ↔ a ≤ b := by
  unfold le
  rw [Bool.or_eq_true, lt_iff, eq_iff]
  exact le_iff_lt_or_eq.symm

@[simp] theorem isNaN_eq_false : isNaN a = false := by
  simp [isNaN]

/-! ## Operations -/

@[simp] theorem half_eq : (half : ℝ) = 1 / 2 := rfl

theorem larger_eq_max : larger a b = max a b := by
  rw [larger_eq isNaN_eq_false]
  split
  · next h => exact (max_eq_left (lt_iff.mp h).le).symm
  · next h => exact (max_eq_right (not_lt.mp (mt lt_iff.mpr h))).symm

theorem smaller_eq_min : smaller a b = min a b := by
  rw [smaller_eq isNaN_eq_false]
  split
  · next h => exact (min_eq_left (lt_iff.mp h).le).symm
  · next h => exact (min_eq_right (not_lt.mp (mt lt_iff.mpr h))).symm

theorem clamp_eq : clamp v l u = min (max v l) u := by
  unfold clamp
  rw [smaller_eq_min, larger_eq_max]

/-- The nearest number of an interval lies between `v` and every number of the interval. -/
theorem sub_clamp_mul_nonpos {y : ℝ} (hl : l ≤ y) (hu : y ≤ u) :
    (v - clamp v l u) * (y - clamp v l u) ≤ 0 := by
  rw [clamp_eq]
  rcases le_total v l with hlow | hlow
  · rw [max_eq_right hlow, min_eq_left (hl.trans hu)]
    exact mul_nonpos_of_nonpos_of_nonneg (sub_nonpos.mpr hlow) (sub_nonneg.mpr hl)
  · rw [max_eq_left hlow]
    rcases le_total v u with hup | hup
    · rw [min_eq_left hup, sub_self, zero_mul]
    · rw [min_eq_right hup]
      exact mul_nonpos_of_nonneg_of_nonpos (sub_nonneg.mpr hup) (sub_nonpos.mpr hu)

/-- No number of an interval is farther from the nearest one to `v` than from `v`. -/
theorem abs_sub_clamp_le {y : ℝ} (hl : l ≤ y) (hu : y ≤ u) : |y - clamp v l u| ≤ |y - v| := by
  have hbetween := sub_clamp_mul_nonpos (v := v) hl hu
  refine sq_le_sq.mp ?_
  nlinarith [sq_nonneg (clamp v l u - v)]

theorem foldl_add_eq (f : Fin n → ℝ) : Fin.foldl n (fun acc i => acc + f i) 0 = ∑ i, f i := by
  induction n with
  | zero => simp
  | succ n ih => rw [Fin.foldl_succ_last, Fin.sum_univ_castSucc, ← ih]

theorem sum_eq (f : Fin n → ℝ) : Scalar.sum f = ∑ i, f i := by
  match n, f with
  | 0, f => exact foldl_add_eq f
  | 1, f => exact (Fin.sum_univ_one f).symm
  | n + 2, f => exact foldl_add_eq f

end Exact

instance : LawfulScalar ℝ where
  isNaN_of_lt _ := ⟨Exact.isNaN_eq_false, Exact.isNaN_eq_false⟩
  isNaN_of_eq _ := ⟨Exact.isNaN_eq_false, Exact.isNaN_eq_false⟩
  eq_symm h := Exact.eq_iff.mpr (Exact.eq_iff.mp h).symm
  le_total _ _ := by
    simp only [Exact.le_iff]
    exact le_total _ _
  le_trans h h' := Exact.le_iff.mpr ((Exact.le_iff.mp h).trans (Exact.le_iff.mp h'))
  le_antisymm h h' := Exact.eq_iff.mpr ((Exact.le_iff.mp h).antisymm (Exact.le_iff.mp h'))
  not_le_of_lt h h' := absurd (Exact.le_iff.mp h') (not_le.mpr (Exact.lt_iff.mp h))
  isNaN_add h := by simp at h
  isNaN_sub h := by simp at h
  isNaN_mul h := by simp at h
  zero_mul_add _ _ := by simp
  isFinite_of_mem_stepLengths _ := by simp [isFinite]

end ProjectedNewton
