import ProjectedNewton.Proofs.Exact.Matrix
import ProjectedNewton.Cholesky

/-!
# Cholesky factorization in exact arithmetic

The factor of a symmetric matrix, if it is found, multiplies with its transpose to that matrix, and
the triangular solvers solve the systems they are for. So the matrix is positive semidefinite, and
the factored system has the computed solution.

All proofs go by induction along the recursion of the algorithm: a sum over `n + 1` indices is a sum
over the first `n`, for which the leading block is known to do, and a last term.

* `Mat.IsFactor` says what a triangular solver needs of its matrix.
* `Mat.sum_solveLower` and `Mat.sum_solveLowerTransposed` are the two systems.
* `Mat.cholesky_spec` is the correctness of the factor, `Factorization.mulVec_solve` and
  `Factorization.posSemidef` are what follows for a factorization.
-/

namespace ProjectedNewton

open Matrix

variable {n : ℕ}

/-! ## Entries of bordered matrices -/

namespace Vec

@[simp] theorem entry_pop {α : Type} (v : Vec α (n + 1)) (i : Fin n) :
    (v.pop : Vec α n) i = v i.castSucc :=
  Vector.getElem_pop i.isLt

@[simp] theorem entry_vectorSub (u v : Vec ℝ n) (i : Fin n) :
    (Vector.sub u v : Vec ℝ n) i = u i - v i :=
  Vector.getElem_sub u v i.val i.isLt

@[simp] theorem entry_map {α β : Type} (f : α → β) (v : Vec α n) (i : Fin n) :
    (Vector.map f v : Vec β n) i = f (v i) :=
  Vector.getElem_map f i.isLt

end Vec

namespace Mat

section Entries

variable (A : Mat ℝ n n) (row : Vec ℝ n) (c : ℝ) (L : Mat ℝ (n + 1) (n + 1)) (i j : Fin n)

@[simp] theorem leading_apply : L.leading i j = L i.castSucc j.castSucc := entry_ofFn _ i j

@[simp] theorem lastRow_apply : L.lastRow j = L (Fin.last n) j.castSucc := Vec.entry_ofFn _ j

@[simp] theorem border_castSucc_castSucc :
    A.border row c i.castSucc j.castSucc = A i j := by
  simp [border]

@[simp] theorem border_castSucc_last : A.border row c i.castSucc (Fin.last n) = 0 := by
  simp [border]

@[simp] theorem border_last_castSucc : A.border row c (Fin.last n) j.castSucc = row j := by
  simp [border]

@[simp] theorem border_last_last : A.border row c (Fin.last n) (Fin.last n) = c := by
  simp [border]

end Entries

/-! ## Triangular systems -/

/-- A lower triangular matrix with positive diagonal. -/
structure IsFactor (L : Mat ℝ n n) : Prop where
  above (i j : Fin n) : i < j → L i j = 0
  diagonal (i : Fin n) : 0 < L i i

theorem IsFactor.leading {L : Mat ℝ (n + 1) (n + 1)} (h : L.IsFactor) : L.leading.IsFactor where
  above := by
    intro i j hij
    rw [leading_apply]
    exact h.above _ _ (Fin.castSucc_lt_castSucc_iff.mpr hij)
  diagonal := by
    intro i
    rw [leading_apply]
    exact h.diagonal _

theorem IsFactor.castSucc_last {L : Mat ℝ (n + 1) (n + 1)} (h : L.IsFactor) (i : Fin n) :
    L i.castSucc (Fin.last n) = 0 :=
  h.above _ _ (Fin.castSucc_lt_last i)

theorem IsFactor.corner_ne_zero {L : Mat ℝ (n + 1) (n + 1)} (h : L.IsFactor) :
    L (Fin.last n) (Fin.last n) ≠ 0 :=
  (h.diagonal _).ne'

/-- A factor is bordered with any row and a positive corner. -/
theorem IsFactor.border {A : Mat ℝ n n} (h : A.IsFactor) (row : Vec ℝ n) {c : ℝ} (hc : 0 < c) :
    (A.border row c).IsFactor where
  above := by
    intro i j hij
    cases i using Fin.lastCases with
    | last => exact absurd hij (not_lt.mpr (Fin.le_last j))
    | cast i =>
      cases j using Fin.lastCases with
      | last => exact border_castSucc_last A row c i
      | cast j =>
        rw [border_castSucc_castSucc]
        exact h.above i j (Fin.castSucc_lt_castSucc_iff.mp hij)
  diagonal := by
    intro i
    cases i using Fin.lastCases with
    | last => simpa using hc
    | cast i => simpa using h.diagonal i

/-- **The solution of `L * y = b`.** -/
theorem sum_solveLower {n : ℕ} {L : Mat ℝ n n} (h : L.IsFactor) (b : Vec ℝ n) (i : Fin n) :
    ∑ j, L i j * L.solveLower b j = b i := by
  induction n with
  | zero => exact i.elim0
  | succ n ih =>
    rw [Fin.sum_univ_castSucc]
    unfold solveLower
    simp only [Vec.entry_push_castSucc, Vec.entry_push_last]
    cases i using Fin.lastCases with
    | last =>
      have hcorner : L (Fin.last n) (Fin.last n) ≠ 0 := h.corner_ne_zero
      have hrow : Vec.dot L.lastRow (L.leading.solveLower b.pop)
          = ∑ j : Fin n, L (Fin.last n) j.castSucc * L.leading.solveLower b.pop j := by
        rw [Exact.dot_eq]
        exact Finset.sum_congr rfl fun j _ => by rw [lastRow_apply]
      unfold corner
      rw [hrow, mul_div_cancel₀ _ hcorner]
      ring
    | cast i =>
      have hlead := ih h.leading b.pop i
      simp only [leading_apply, Vec.entry_pop] at hlead
      rw [h.castSucc_last i, zero_mul, add_zero]
      exact hlead

/-- **The solution of `Lᵀ * z = y`.** -/
theorem sum_solveLowerTransposed {n : ℕ} {L : Mat ℝ n n} (h : L.IsFactor) (y : Vec ℝ n)
    (i : Fin n) : ∑ j, L j i * L.solveLowerTransposed y j = y i := by
  induction n with
  | zero => exact i.elim0
  | succ n ih =>
    rw [Fin.sum_univ_castSucc]
    unfold solveLowerTransposed
    simp only [Vec.entry_push_castSucc, Vec.entry_push_last]
    cases i using Fin.lastCases with
    | last =>
      have hcorner : L (Fin.last n) (Fin.last n) ≠ 0 := h.corner_ne_zero
      simp only [h.castSucc_last, zero_mul, Finset.sum_const_zero, zero_add]
      exact mul_div_cancel₀ _ hcorner
    | cast i =>
      have hlead := ih h.leading (y.pop.sub (L.lastRow.scale (y (Fin.last n) / L.corner))) i
      simp only [leading_apply, Vec.entry_vectorSub, Vec.entry_pop, Vec.entry_scale, lastRow_apply]
        at hlead
      rw [hlead, sub_add_cancel]

/-! ## The factor -/

/-- A factor of the leading block is bordered to a factor of the whole matrix. -/
theorem sum_border {M : Mat ℝ (n + 1) (n + 1)} {A : Mat ℝ n n} {row : Vec ℝ n} {c : ℝ}
    (hM : M.toMatrix.IsSymm) (hlead : ∀ i j, ∑ k, A i k * A j k = M.leading i j)
    (hrow : ∀ j, ∑ k, A j k * row k = M.lastRow j)
    (hcorner : c * c = M.corner - Vec.dot row row) (i j : Fin (n + 1)) :
    ∑ k, A.border row c i k * A.border row c j k = M i j := by
  rw [Fin.sum_univ_castSucc]
  cases i using Fin.lastCases with
  | last =>
    cases j using Fin.lastCases with
    | last =>
      simp only [border_last_castSucc, border_last_last]
      rw [hcorner, Exact.dot_eq]
      exact add_sub_cancel _ _
    | cast j =>
      have hswap : ∑ k, row k * A j k = ∑ k, A j k * row k :=
        Finset.sum_congr rfl fun k _ => mul_comm _ _
      simp only [border_last_castSucc, border_castSucc_castSucc, border_castSucc_last, mul_zero,
        add_zero]
      rw [hswap, hrow j, lastRow_apply]
  | cast i =>
    cases j using Fin.lastCases with
    | last =>
      have hsymm : M i.castSucc (Fin.last n) = M (Fin.last n) i.castSucc :=
        hM.apply (Fin.last n) i.castSucc
      simp only [border_last_castSucc, border_castSucc_castSucc, border_castSucc_last, zero_mul,
        add_zero]
      rw [hrow i, lastRow_apply, hsymm]
    | cast j =>
      simp only [border_castSucc_castSucc, border_castSucc_last, mul_zero, add_zero]
      rw [hlead i j, leading_apply]

/-- The last row and the last pivot come from the factor of the leading block, in any arithmetic. -/
theorem cholesky_succ {α : Type} [Scalar α] (M : Mat α (n + 1) (n + 1)) :
    M.cholesky = M.leading.cholesky.bind fun A =>
      let y := A.solveLower M.lastRow
      let pivot := M.corner - Vec.dot y y
      if Scalar.le pivot 0 then none else some (A.border y (Scalar.sqrt pivot)) :=
  rfl

/-- The factor of the leading block is bordered, if the pivot is positive. -/
theorem cholesky_eq_some_iff {M L : Mat ℝ (n + 1) (n + 1)} : M.cholesky = some L ↔
    ∃ A, M.leading.cholesky = some A ∧
      0 < M.corner - Vec.dot (A.solveLower M.lastRow) (A.solveLower M.lastRow) ∧
      L = A.border (A.solveLower M.lastRow) (Real.sqrt
        (M.corner - Vec.dot (A.solveLower M.lastRow) (A.solveLower M.lastRow))) := by
  rw [cholesky_succ, Option.bind_eq_some_iff]
  refine exists_congr fun A => and_congr_right fun _ => ?_
  dsimp only
  rw [Option.ite_none_left_eq_some, Exact.le_iff, not_le, Option.some.injEq, eq_comm (b := L)]
  rfl

theorem isSymm_leading {M : Mat ℝ (n + 1) (n + 1)} (hM : M.toMatrix.IsSymm) :
    M.leading.toMatrix.IsSymm := by
  ext i j
  simpa using hM.apply i.castSucc j.castSucc

/-- The factor is lower triangular with positive diagonal. -/
theorem isFactor_of_cholesky {n : ℕ} {M L : Mat ℝ n n} (hL : M.cholesky = some L) :
    L.IsFactor := by
  induction n with
  | zero => exact ⟨fun i => i.elim0, fun i => i.elim0⟩
  | succ n ih =>
    obtain ⟨A, hA, hpos, rfl⟩ := cholesky_eq_some_iff.mp hL
    exact (ih hA).border _ (Real.sqrt_pos.mpr hpos)

/-- **The factor of a symmetric matrix times its transpose is the matrix.** -/
theorem cholesky_spec {n : ℕ} {M L : Mat ℝ n n} (hM : M.toMatrix.IsSymm)
    (hL : M.cholesky = some L) : ∀ i j, ∑ k, L i k * L j k = M i j := by
  induction n with
  | zero => exact fun i => i.elim0
  | succ n ih =>
    obtain ⟨A, hA, hpos, rfl⟩ := cholesky_eq_some_iff.mp hL
    have hfactor : A.IsFactor := isFactor_of_cholesky hA
    exact sum_border hM (ih (isSymm_leading hM) hA) (sum_solveLower hfactor M.lastRow)
      (Real.mul_self_sqrt hpos.le)

/-- In the words of linear algebra. -/
theorem toMatrix_mul_transpose {M L : Mat ℝ n n} (hM : M.toMatrix.IsSymm)
    (hL : M.cholesky = some L) : L.toMatrix * L.toMatrixᵀ = M.toMatrix := by
  ext i j
  exact cholesky_spec hM hL i j

/-- **A factored system has the computed solution.** -/
theorem mulVec_solveFactor {M L : Mat ℝ n n} (hM : M.toMatrix.IsSymm) (hL : M.cholesky = some L)
    (b : Vec ℝ n) : M.toMatrix *ᵥ (Factorization.solveFactor L b).entry = b.entry := by
  have hfactor : L.IsFactor := isFactor_of_cholesky hL
  have hupper : L.toMatrixᵀ *ᵥ (Factorization.solveFactor L b).entry = (L.solveLower b).entry :=
    funext (sum_solveLowerTransposed hfactor (L.solveLower b))
  have hlower : L.toMatrix *ᵥ (L.solveLower b).entry = b.entry := funext (sum_solveLower hfactor b)
  rw [← toMatrix_mul_transpose hM hL, ← mulVec_mulVec, hupper, hlower]

end Mat

/-! ## Factorizations -/

namespace Factorization

variable {M : Mat ℝ n n} {a : ℝ} {F : Factorization ℝ n}

/-- A factorization is made from a factor that elimination does not take to be singular. -/
theorem of?_eq_some_iff {α : Type} [Scalar α] {M : Mat α n n} {a : α} {F : Factorization α n} :
    of? M a = some F ↔ (M.shift a).cholesky = some F.lower ∧
      (F.lower.isSingular || F.lower.transpose.isSingular) = false ∧
      F.inverse = Mat.transpose ((Mat.identity n : Mat α n n).map (solveFactor F.lower)) := by
  unfold of? make
  cases (M.shift a).cholesky with
  | none => exact ⟨nofun, nofun⟩
  | some L =>
    dsimp only
    constructor
    · intro h
      split at h
      · cases h
      · next hregular =>
        cases h
        exact ⟨rfl, Bool.eq_false_iff.mpr hregular, rfl⟩
    · rintro ⟨hL, hregular, hinverse⟩
      obtain rfl := Option.some.inj hL
      rw [hregular, if_neg Bool.false_ne_true, ← hinverse]
      rfl

theorem cholesky_of_eq_some (h : of? M a = some F) : (M.shift a).cholesky = some F.lower :=
  (of?_eq_some_iff.mp h).1

theorem isSymm_shift (hM : M.toMatrix.IsSymm) (a : ℝ) : (M.shift a).toMatrix.IsSymm := by
  ext i j
  have hij : M i j = M j i := hM.apply j i
  rw [transpose_apply, Mat.toMatrix_apply, Mat.toMatrix_apply, Exact.shift_apply,
    Exact.shift_apply, hij]
  simp only [eq_comm]

/-- **A factorization solves its system.** -/
theorem mulVec_solve (hM : M.toMatrix.IsSymm) (h : of? M a = some F) (b : Vec ℝ n) :
    (M.shift a).toMatrix *ᵥ (F.solve b).entry = b.entry :=
  Mat.mulVec_solveFactor (isSymm_shift hM a) (cholesky_of_eq_some h) b

/-- **Only a positive semidefinite matrix has a factorization.** -/
theorem posSemidef (hM : M.toMatrix.IsSymm) (h : of? M a = some F) :
    (M.shift a).toMatrix.PosSemidef := by
  rw [← Mat.toMatrix_mul_transpose (isSymm_shift hM a) (cholesky_of_eq_some h)]
  exact posSemidef_self_mul_conjTranspose F.lower.toMatrix

end Factorization

end ProjectedNewton
