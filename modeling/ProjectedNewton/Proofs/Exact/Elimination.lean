import ProjectedNewton.Proofs.Exact.Matrix
import ProjectedNewton.Cholesky

/-!
# Elimination in exact arithmetic

Elimination with row exchanges only comes to a pivot of zero if the columns of the matrix are
linearly dependent. If they are independent, so are those of the matrix with two rows exchanged, and
those that are left when the first column has been eliminated: what these take to zero continues to
a vector that the whole matrix takes to zero. And a column of independent columns has an entry that
is not zero, so that the largest one is not.

* `Mat.Independent` says that the columns are independent.
* `Mat.abs_le_pivotRow` is the choice of the pivot, `Mat.Independent.pivot_ne_zero` that it is not
  zero, `Mat.Independent.eliminateFirst` the step to the smaller matrix.
* `Mat.Independent.isSingular_eq_false` is the result.
-/

namespace ProjectedNewton

open Matrix

variable {n : ℕ}

namespace Mat

/-- The columns are linearly independent. -/
def Independent (A : Mat ℝ n n) : Prop := ∀ v, A.toMatrix *ᵥ v = 0 → v = 0

/-! ## The pivot -/

theorem first_eq_zero : (first : Fin (n + 1)) = 0 := rfl

/-- What a search for the largest value ends with is as large as all that it has seen. -/
theorem le_foldl_best {ι : Type} {k : ℕ} (g : ι → ℝ) (f : Fin k → ι) (b : ι) :
    g b ≤ g (Fin.foldl k (fun best i => if Scalar.lt (g best) (g (f i)) then f i else best) b) ∧
      ∀ i, g (f i)
        ≤ g (Fin.foldl k (fun best i => if Scalar.lt (g best) (g (f i)) then f i else best) b) := by
  induction k with
  | zero => exact ⟨le_of_eq (by rw [Fin.foldl_zero]), fun i => i.elim0⟩
  | succ k ih =>
    obtain ⟨hinit, hseen⟩ := ih fun i => f i.castSucc
    rw [Fin.foldl_succ_last]
    split
    · next hlarger =>
      have hlt := Exact.lt_iff.mp hlarger
      refine ⟨hinit.trans hlt.le, ?_⟩
      intro i
      cases i using Fin.lastCases with
      | last => exact le_rfl
      | cast i => exact (hseen i).trans hlt.le
    · next hlarger =>
      refine ⟨hinit, ?_⟩
      intro i
      cases i using Fin.lastCases with
      | last => exact not_lt.mp (mt Exact.lt_iff.mpr hlarger)
      | cast i => exact hseen i

section Pivot

variable (A : Mat ℝ (n + 1) (n + 1))

/-- **The pivot row has the largest entry of the first column.** -/
theorem abs_le_pivotRow (i : Fin (n + 1)) : |A i 0| ≤ |A A.pivotRow 0| := by
  obtain ⟨hfirst, hother⟩ := le_foldl_best (fun i => |A i 0|) Fin.succ (0 : Fin (n + 1))
  cases i using Fin.cases with
  | zero => exact hfirst
  | succ i => exact hother i

theorem pivoted_apply (i : Fin (n + 1)) : A.pivoted i = A (Equiv.swap 0 A.pivotRow i) := by
  unfold pivoted Vec.entry
  rw [Vector.getElem_swap, Equiv.swap_apply_def]
  simp only [Fin.ext_iff, Fin.val_zero]
  split
  · rfl
  · split <;> rfl

theorem pivoted_zero : A.pivoted 0 = A A.pivotRow := by
  rw [pivoted_apply, Equiv.swap_apply_left]

end Pivot

/-! ## Independent columns -/

section Step

variable {A : Mat ℝ (n + 1) (n + 1)}

/-- The rows of independent columns can be exchanged. -/
theorem Independent.pivoted (h : A.Independent) : A.pivoted.Independent := by
  intro v hv
  refine h v (funext ?_)
  intro i
  have hrow : (A.pivoted.toMatrix *ᵥ v) (Equiv.swap 0 A.pivotRow i) = (A.toMatrix *ᵥ v) i := by
    show (fun j => A.pivoted.toMatrix (Equiv.swap 0 A.pivotRow i) j) ⬝ᵥ v = _
    congr 1
    funext j
    rw [toMatrix_apply, pivoted_apply, Equiv.swap_apply_self]
    rfl
  rw [← hrow, hv]
  rfl

/-- **The pivot of independent columns is not zero.** -/
theorem Independent.pivot_ne_zero (h : A.Independent) : A.pivoted 0 0 ≠ 0 := by
  rw [pivoted_zero]
  intro hpivot
  have hcolumn (i : Fin (n + 1)) : A i 0 = 0 := by
    have hle := A.abs_le_pivotRow i
    rw [hpivot, abs_zero] at hle
    exact abs_nonpos_iff.mp hle
  have hsingle : A.toMatrix *ᵥ Pi.single 0 1 = 0 := by
    rw [mulVec_single_one]
    exact funext hcolumn
  have hone : (1 : ℝ) = 0 := by simpa using congrFun (h _ hsingle) 0
  exact one_ne_zero hone

/-- **Elimination leaves independent columns independent.** -/
theorem Independent.eliminateFirst (h : A.Independent) (hpivot : A 0 0 ≠ 0) :
    A.eliminateFirst.Independent := by
  intro w hw
  -- The first unknown is found from the first row.
  have hcontinued : A.toMatrix *ᵥ Fin.cons (-(∑ j : Fin n, A 0 j.succ * w j) / A 0 0) w = 0 := by
    funext i
    unfold Matrix.mulVec dotProduct
    rw [Fin.sum_univ_succ]
    simp only [toMatrix_apply, Fin.cons_zero, Fin.cons_succ, Pi.zero_apply]
    cases i using Fin.cases with
    | zero =>
      rw [mul_div_cancel₀ _ hpivot]
      exact neg_add_cancel _
    | succ i =>
      have hi : ∑ j : Fin n, (A i.succ j.succ - A i.succ 0 / A 0 0 * A 0 j.succ) * w j = 0 := by
        have hrow := congrFun hw i
        unfold Matrix.mulVec dotProduct Mat.eliminateFirst at hrow
        simpa only [toMatrix_apply, entry_ofFn, Pi.zero_apply, first_eq_zero] using hrow
      simp only [sub_mul, Finset.sum_sub_distrib, mul_assoc, ← Finset.mul_sum] at hi
      rw [← hi]
      ring
  funext j
  exact congrFun (h _ hcontinued) j.succ

end Step

/-- **Elimination of independent columns does not come to a pivot of zero.** -/
theorem Independent.isSingular_eq_false {n : ℕ} {A : Mat ℝ n n} (h : A.Independent) :
    A.isSingular = false := by
  induction n with
  | zero => rfl
  | succ n ih =>
    have hpivot : A.pivoted 0 0 ≠ 0 := h.pivot_ne_zero
    unfold isSingular
    rw [ih (h.pivoted.eliminateFirst hpivot), Bool.or_false, Bool.eq_false_iff]
    exact fun hzero => hpivot (Exact.eq_iff.mp hzero)

/-- The columns of an invertible matrix are independent. -/
theorem independent_of_isUnit {A : Mat ℝ n n} (h : IsUnit A.toMatrix) : A.Independent := by
  intro v hv
  exact mulVec_injective_of_isUnit h (hv.trans (mulVec_zero _).symm)

end Mat

end ProjectedNewton
