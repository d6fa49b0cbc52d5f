import ProjectedNewton.Proofs.Exact.Cholesky
import ProjectedNewton.Proofs.Exact.Elimination

/-!
# Which matrices have a factorization

A symmetric matrix has a factorization exactly if it is positive definite.

That the factorization does not fail on a positive definite matrix `M` follows the recursion of the
algorithm. The leading block of `M` is positive definite, so that it has a factor. The pivot that
comes next is a value of the quadratic form of `M`: that at the vector which ends in one and which
`M` takes to zero in all other coordinates. So it is positive. In the other direction, the factor of
`M` is invertible because its diagonal is positive.

* `Mat.pivotVector` is that vector, `Mat.form_pivotVector` the value.
* `Mat.exists_cholesky_of_posDef` and `Mat.IsFactor.isUnit` are the two directions, and
  `Factorization.exists_of?_iff` is the result.
* `Factorization.inverse_eq`: the computed inverse is the inverse.
-/

namespace ProjectedNewton

open Matrix

variable {n : ℕ}

namespace Mat

/-! ## The pivot -/

section Pivot

variable (M : Mat ℝ (n + 1) (n + 1)) (A : Mat ℝ n n)

/-- The vector at which the quadratic form of `M` is the pivot, if `A` is the factor of the leading
block. -/
noncomputable def pivotVector : Vec ℝ (n + 1) :=
  (A.solveLowerTransposed (A.solveLower M.lastRow)).neg.push 1

theorem pivotVector_ne_zero : (pivotVector M A).entry ≠ 0 := by
  intro h
  have hlast : pivotVector M A (Fin.last n) = 0 := congrFun h (Fin.last n)
  unfold pivotVector at hlast
  rw [Vec.entry_push_last] at hlast
  exact one_ne_zero hlast

theorem mulVec_pivotVector (i : Fin (n + 1)) : (M.toMatrix *ᵥ (pivotVector M A).entry) i
      = M i (Fin.last n)
        - ∑ j, M i j.castSucc * A.solveLowerTransposed (A.solveLower M.lastRow) j := by
  unfold pivotVector Matrix.mulVec dotProduct
  rw [Fin.sum_univ_castSucc]
  simp only [toMatrix_apply, Vec.entry_push_castSucc, Vec.entry_push_last, Vec.entry_neg, mul_one,
    mul_neg, Finset.sum_neg_distrib]
  ring

variable {M A}

theorem mulVec_pivotVector_castSucc (hM : M.toMatrix.IsSymm) (hA : M.leading.cholesky = some A)
    (i : Fin n) : (M.toMatrix *ᵥ (pivotVector M A).entry) i.castSucc = 0 := by
  have hsolve : ∑ j, M.leading i j * A.solveLowerTransposed (A.solveLower M.lastRow) j
      = M.lastRow i :=
    congrFun (mulVec_solveFactor (isSymm_leading hM) hA M.lastRow) i
  have hsymm : M i.castSucc (Fin.last n) = M (Fin.last n) i.castSucc :=
    hM.apply (Fin.last n) i.castSucc
  simp only [leading_apply, lastRow_apply] at hsolve
  rw [mulVec_pivotVector, hsolve, hsymm, sub_self]

/-- The last row times the solution for it is the square of the half-way solution. -/
theorem sum_lastRow (hA : A.IsFactor) (b : Vec ℝ n) :
    ∑ j, b j * A.solveLowerTransposed (A.solveLower b) j
      = Vec.dot (A.solveLower b) (A.solveLower b) := by
  rw [Exact.dot_eq]
  calc ∑ j, b j * A.solveLowerTransposed (A.solveLower b) j
      = A.toMatrix *ᵥ (A.solveLower b).entry
          ⬝ᵥ (A.solveLowerTransposed (A.solveLower b)).entry := by
        refine Finset.sum_congr rfl ?_
        intro j _
        rw [← sum_solveLower hA b j]
        rfl
    _ = (A.solveLower b).entry
          ⬝ᵥ A.toMatrixᵀ *ᵥ (A.solveLowerTransposed (A.solveLower b)).entry :=
        mulVec_dotProduct _ _ _
    _ = (A.solveLower b).entry ⬝ᵥ (A.solveLower b).entry := by
        congr 1
        exact funext (sum_solveLowerTransposed hA (A.solveLower b))

/-- **The pivot is a value of the quadratic form.** -/
theorem form_pivotVector (hM : M.toMatrix.IsSymm) (hA : M.leading.cholesky = some A) :
    (pivotVector M A).entry ⬝ᵥ M.toMatrix *ᵥ (pivotVector M A).entry
      = M.corner - Vec.dot (A.solveLower M.lastRow) (A.solveLower M.lastRow) := by
  have hfactor : A.IsFactor := isFactor_of_cholesky hA
  have hlast : pivotVector M A (Fin.last n) = 1 := Vec.entry_push_last _ _
  unfold dotProduct
  rw [Fin.sum_univ_castSucc]
  simp only [mulVec_pivotVector_castSucc hM hA, mul_zero, Finset.sum_const_zero, zero_add]
  rw [hlast, one_mul, mulVec_pivotVector, ← sum_lastRow hfactor]
  simp only [lastRow_apply]
  rfl

end Pivot

/-- **A positive definite matrix has a factor.** -/
theorem exists_cholesky_of_posDef {n : ℕ} {M : Mat ℝ n n} (hM : M.toMatrix.PosDef) :
    ∃ L, M.cholesky = some L := by
  induction n with
  | zero => exact ⟨_, rfl⟩
  | succ n ih =>
    have hlead : M.leading.toMatrix = M.toMatrix.submatrix Fin.castSucc Fin.castSucc := by
      ext i j
      exact leading_apply M i j
    obtain ⟨A, hA⟩ := ih (M := M.leading) (hlead ▸ hM.submatrix (Fin.castSucc_injective n))
    have hpivot := hM.dotProduct_mulVec_pos (pivotVector_ne_zero M A)
    rw [star_trivial, form_pivotVector hM.isHermitian hA] at hpivot
    exact ⟨_, cholesky_eq_some_iff.mpr ⟨A, hA, hpivot, rfl⟩⟩

/-- A triangular matrix with positive diagonal is invertible. -/
theorem IsFactor.isUnit {L : Mat ℝ n n} (h : L.IsFactor) : IsUnit L.toMatrix := by
  have hlower : L.toMatrix.IsLowerTriangular := fun i j hij => h.above i j hij
  rw [isUnit_iff_isUnit_det, det_of_isLowerTriangular _ hlower, isUnit_iff_ne_zero]
  exact Finset.prod_ne_zero_iff.mpr fun i _ => (h.diagonal i).ne'

/-- **Elimination does not take a factor to be singular**, nor its transpose. -/
theorem IsFactor.isSingular_eq_false {L : Mat ℝ n n} (h : L.IsFactor) :
    (L.isSingular || L.transpose.isSingular) = false := by
  have htransposed : IsUnit L.transpose.toMatrix := by
    rw [toMatrix_transpose]
    exact (isUnit_transpose _).mpr h.isUnit
  rw [(independent_of_isUnit h.isUnit).isSingular_eq_false,
    (independent_of_isUnit htransposed).isSingular_eq_false]
  rfl

end Mat

/-! ## Factorizations -/

namespace Factorization

variable {M : Mat ℝ n n} {a : ℝ} {F : Factorization ℝ n}

/-- **A positive definite matrix has a factorization.** -/
theorem exists_of?_of_posDef (hM : (M.shift a).toMatrix.PosDef) : ∃ F, of? M a = some F := by
  obtain ⟨L, hL⟩ := Mat.exists_cholesky_of_posDef hM
  refine ⟨⟨L, Mat.transpose ((Mat.identity n : Mat ℝ n n).map (solveFactor L))⟩, ?_⟩
  exact of?_eq_some_iff.mpr ⟨hL, (Mat.isFactor_of_cholesky hL).isSingular_eq_false, rfl⟩

/-- **Nothing else can fail** in exact arithmetic. -/
theorem error_eq {e : FactorizationError ℝ} (h : make M a = .error e) :
    e = .notPositiveDefinite ⟨n, a⟩ := by
  unfold make at h
  split at h
  · cases h
    rfl
  · next L hL =>
    rw [(Mat.isFactor_of_cholesky hL).isSingular_eq_false, if_neg Bool.false_ne_true] at h
    cases h

/-- **Only a positive definite matrix has a factorization.** -/
theorem posDef (hM : M.toMatrix.IsSymm) (h : of? M a = some F) : (M.shift a).toMatrix.PosDef := by
  have hsymm : (M.shift a).toMatrix.IsSymm := isSymm_shift hM a
  have hlower : (M.shift a).cholesky = some F.lower := cholesky_of_eq_some h
  have hfactor : F.lower.IsFactor := Mat.isFactor_of_cholesky hlower
  rw [← Mat.toMatrix_mul_transpose hsymm hlower]
  exact PosDef.mul_conjTranspose_self _ (vecMul_injective_of_isUnit hfactor.isUnit)

theorem exists_of?_iff (hM : M.toMatrix.IsSymm) :
    (∃ F, of? M a = some F) ↔ (M.shift a).toMatrix.PosDef :=
  ⟨fun ⟨_, h⟩ => posDef hM h, exists_of?_of_posDef⟩

/-- The solution of a factored system, by the inverse of the matrix. -/
theorem solve_eq (hM : M.toMatrix.IsSymm) (h : of? M a = some F) (b : Vec ℝ n) :
    (F.solve b).entry = (M.shift a).toMatrix⁻¹ *ᵥ b.entry := by
  have hdet : IsUnit (M.shift a).toMatrix.det :=
    (isUnit_iff_isUnit_det _).mp (posDef hM h).isUnit
  rw [← mulVec_solve hM h b, mulVec_mulVec, nonsing_inv_mul _ hdet, one_mulVec]

/-- The columns of the inverse solve the system for the columns of the identity. -/
theorem inverse_column (h : of? M a = some F) (i j : Fin n) :
    F.inverse i j = F.solve ((Mat.identity n : Mat ℝ n n) j) i := by
  rw [(of?_eq_some_iff.mp h).2.2]
  unfold Mat.transpose
  rw [Mat.entry_ofFn, Vec.entry_map]
  rfl

/-- **The inverse of a factorization inverts the matrix.** -/
theorem inverse_eq (hM : M.toMatrix.IsSymm) (h : of? M a = some F) :
    F.inverse.toMatrix = (M.shift a).toMatrix⁻¹ := by
  refine (inv_eq_right_inv ?_).symm
  ext i j
  have hsolve := congrFun (mulVec_solve hM h ((Mat.identity n : Mat ℝ n n) j)) i
  calc ((M.shift a).toMatrix * F.inverse.toMatrix) i j
      = ((M.shift a).toMatrix *ᵥ (F.solve ((Mat.identity n : Mat ℝ n n) j)).entry) i := by
        rw [mul_apply]
        refine Finset.sum_congr rfl ?_
        intro k _
        rw [Mat.toMatrix_apply F.inverse, inverse_column h]
    _ = (1 : Matrix (Fin n) (Fin n) ℝ) i j := by
        rw [hsolve, one_apply, Mat.identity, Mat.entry_ofFn]
        simp only [eq_comm]

end Factorization

end ProjectedNewton
