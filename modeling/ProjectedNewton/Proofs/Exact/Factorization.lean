import ProjectedNewton.Proofs.Exact.Newton

/-!
# What a factorization is of

A factorization reads the lower triangle of its matrix and nothing else, in any arithmetic. So what
it factorizes is the symmetric matrix with this lower triangle. In exact arithmetic it fails exactly
if that matrix is not positive definite, and otherwise its factor and its inverse are those of that
matrix, whatever stands above the diagonal.

* `Mat.SameLower` says that two matrices have the same lower triangle, `Mat.SameLower.cholesky` and
  `Factorization.make_congr` that they are factorized alike.
* `mirrored` is the symmetric matrix with a given lower triangle.
* `Factorization.make_exact` is the main result.
-/

namespace ProjectedNewton

open Matrix

/-! ## The lower triangle -/

namespace Mat

variable {α : Type} {n : ℕ}

/-- The entries on and below the diagonal are the same. -/
def SameLower (A B : Mat α n n) : Prop := ∀ i j, j ≤ i → A i j = B i j

/-- The symmetric matrix with the lower triangle of `A`. -/
def mirror (A : Mat α n n) : Mat α n n := ofFn fun i j => A (max i j) (min i j)

theorem sameLower_mirror (A : Mat α n n) : SameLower A.mirror A := by
  intro i j hij
  unfold mirror
  rw [entry_ofFn, max_eq_left hij, min_eq_right hij]

namespace SameLower

section Parts

variable {A B : Mat α (n + 1) (n + 1)} (h : SameLower A B)
include h

theorem leading : SameLower A.leading B.leading := by
  intro i j hij
  unfold Mat.leading
  rw [entry_ofFn, entry_ofFn]
  exact h _ _ (Fin.castSucc_le_castSucc_iff.mpr hij)

theorem lastRow : A.lastRow = B.lastRow := by
  refine Vec.ext_entry ?_
  intro j
  unfold Mat.lastRow
  rw [Vec.entry_ofFn, Vec.entry_ofFn]
  exact h _ _ (Fin.le_last _)

theorem corner : A.corner = B.corner := h _ _ le_rfl

end Parts

variable [Scalar α]

theorem shift {A B : Mat α n n} (h : SameLower A B) (a : α) :
    SameLower (A.shift a) (B.shift a) := by
  intro i j hij
  unfold Mat.shift
  split
  · exact h i j hij
  · unfold Mat.add
    rw [entry_ofFn, entry_ofFn, h i j hij]

/-- **Matrices with the same lower triangle have the same factor**, or none. -/
theorem cholesky {n : ℕ} {A B : Mat α n n} (h : SameLower A B) : A.cholesky = B.cholesky := by
  induction n with
  | zero => rfl
  | succ n ih =>
    rw [cholesky_succ, cholesky_succ, ih h.leading, h.lastRow, h.corner]

end SameLower

end Mat

namespace Factorization

variable {α : Type} [Scalar α] {n : ℕ} {A B : Mat α n n} {a : α}

/-- **What stands above the diagonal does not matter to a factorization.** -/
theorem make_congr (h : Mat.SameLower A B) : make A a = make B a := by
  unfold make
  rw [(h.shift a).cholesky]

theorem of?_congr (h : Mat.SameLower A B) : of? A a = of? B a :=
  congrArg Except.toOption (make_congr h)

end Factorization

/-! ## The factorized matrix -/

variable {n : ℕ}

/-- The symmetric matrix with the lower triangle of `A`. -/
def mirrored (A : Matrix (Fin n) (Fin n) ℝ) : Matrix (Fin n) (Fin n) ℝ :=
  Matrix.of fun i j => A (max i j) (min i j)

theorem isSymm_mirrored (A : Matrix (Fin n) (Fin n) ℝ) : (mirrored A).IsSymm := by
  ext i j
  unfold mirrored
  rw [transpose_apply, of_apply, of_apply, max_comm, min_comm]

theorem Mat.toMatrix_mirror (A : Mat ℝ n n) : A.mirror.toMatrix = mirrored A.toMatrix :=
  Mat.toMatrix_ofFn _

/-- The diagonal can be shifted before or after. -/
theorem mirrored_add_smul_one (A : Matrix (Fin n) (Fin n) ℝ) (r : ℝ) :
    mirrored (A + r • 1) = mirrored A + r • 1 := by
  ext i j
  unfold mirrored
  simp [one_apply]

/-- The matrix of a factorization: the symmetric one with the lower triangle of `M + r * I`. -/
theorem Mat.toMatrix_shift_mirror (M : Mat ℝ n n) (r : ℝ) :
    (M.mirror.shift r).toMatrix = mirrored (M.toMatrix + r • 1) := by
  rw [Problem.toMatrix_shift, toMatrix_mirror, mirrored_add_smul_one]

/-! ## The result -/

namespace Factorization

/-- The factor is lower triangular with positive diagonal, it is one of `A`, and the inverse is that
of `A`. -/
structure Inverts (F : Factorization ℝ n) (A : Matrix (Fin n) (Fin n) ℝ) : Prop where
  lower : F.lower.IsFactor
  product : F.lower.toMatrix * F.lower.toMatrixᵀ = A
  inverse_mul : F.inverse.toMatrix * A = 1
  mul_inverse : A * F.inverse.toMatrix = 1

variable {M : Mat ℝ n n} {r : ℝ} {F : Factorization ℝ n}

theorem inverts_of_eq_some (hM : M.toMatrix.IsSymm) (h : of? M r = some F) :
    F.Inverts (M.shift r).toMatrix := by
  have hsymm : (M.shift r).toMatrix.IsSymm := isSymm_shift hM r
  have hlower : (M.shift r).cholesky = some F.lower := cholesky_of_eq_some h
  have hdet : IsUnit (M.shift r).toMatrix.det :=
    (isUnit_iff_isUnit_det _).mp (posDef hM h).isUnit
  have hinverse : F.inverse.toMatrix = (M.shift r).toMatrix⁻¹ := inverse_eq hM h
  refine ⟨Mat.isFactor_of_cholesky hlower, Mat.toMatrix_mul_transpose hsymm hlower, ?_, ?_⟩
  · rw [hinverse, nonsing_inv_mul _ hdet]
  · rw [hinverse, mul_nonsing_inv _ hdet]

/-- No factorization, no definiteness. -/
theorem not_posDef_mirrored (h : of? M r = none) :
    ¬(mirrored (M.toMatrix + r • 1)).PosDef := by
  intro hposDef
  rw [← Mat.toMatrix_shift_mirror] at hposDef
  obtain ⟨F, hF⟩ := exists_of?_of_posDef hposDef
  rw [of?_congr M.sameLower_mirror, h] at hF
  cases hF

/-- On a symmetric matrix. -/
theorem make_of_isSymm (hM : M.toMatrix.IsSymm) :
    (∀ e, make M r = .error e ↔
      e = .notPositiveDefinite ⟨n, r⟩ ∧ ¬(M.shift r).toMatrix.PosDef) ∧
    ((M.shift r).toMatrix.PosDef → ∃ F, make M r = .ok F ∧ F.Inverts (M.shift r).toMatrix) := by
  have hiff := exists_of?_iff (a := r) hM
  cases hF : make M r with
  | error e' =>
    have hnone : of? M r = none := congrArg Except.toOption hF
    have hfails : ¬(M.shift r).toMatrix.PosDef := by
      rw [← hiff, hnone]
      rintro ⟨F, ⟨⟩⟩
    obtain rfl := error_eq hF
    exact ⟨fun e => by simp [hfails, eq_comm], fun hposDef => absurd hposDef hfails⟩
  | ok F =>
    have hsome : of? M r = some F := congrArg Except.toOption hF
    have hposDef : (M.shift r).toMatrix.PosDef := hiff.mp ⟨F, hsome⟩
    exact ⟨fun e => by simp [hposDef], fun _ => ⟨F, rfl, inverts_of_eq_some hM hsome⟩⟩

/-- **A factorization fails exactly on the matrices that are not positive definite**, and is exact
on the others. Both are about the symmetric matrix with the lower triangle of `M + r * I`, since
nothing else is read. -/
theorem make_exact (M : Mat ℝ n n) (r : ℝ) :
    (∀ e, make M r = .error e ↔
      e = .notPositiveDefinite ⟨n, r⟩ ∧ ¬(mirrored (M.toMatrix + r • 1)).PosDef) ∧
    ((mirrored (M.toMatrix + r • 1)).PosDef →
      ∃ F, make M r = .ok F ∧ F.Inverts (mirrored (M.toMatrix + r • 1))) ∧
    ∀ M' : Mat ℝ n n, M'.SameLower M → make M' r = make M r := by
  have hsymm : M.mirror.toMatrix.IsSymm := by
    rw [Mat.toMatrix_mirror]
    exact isSymm_mirrored _
  obtain ⟨hfails, hinverts⟩ := make_of_isSymm (r := r) hsymm
  rw [make_congr M.sameLower_mirror, Mat.toMatrix_shift_mirror] at hfails hinverts
  exact ⟨hfails, hinverts, fun _ => make_congr⟩

/-- A matrix that is not symmetric. Its lower triangle is that of a positive definite one. -/
noncomputable def lopsided : Mat ℝ 2 2 := Mat.ofInts ![![5, 7], ![4, 4]]

theorem mirrored_lopsided : mirrored lopsided.toMatrix = !![5, 4; 4, 4] := by
  unfold lopsided mirrored
  rw [Mat.toMatrix_ofInts]
  ext i j
  fin_cases i <;> fin_cases j <;> simp

/-- The entry above the diagonal does not matter, and a negative shift makes the factorization
fail. -/
theorem make_lopsided :
    (∃ F, make lopsided 0 = .ok F ∧ F.lower.toMatrix * F.lower.toMatrixᵀ = !![5, 4; 4, 4]) ∧
    make lopsided (-5) = .error (.notPositiveDefinite ⟨2, -5⟩) := by
  constructor
  · have hposDef : (mirrored (lopsided.toMatrix + (0 : ℝ) • 1)).PosDef := by
      rw [zero_smul, add_zero, mirrored_lopsided]
      exact Problem.hessianMatrix_corner ▸ Problem.posDef_corner
    obtain ⟨F, hF, hinverts⟩ := (make_exact lopsided 0).2.1 hposDef
    have hproduct := hinverts.product
    rw [zero_smul, add_zero, mirrored_lopsided] at hproduct
    exact ⟨F, hF, hproduct⟩
  · refine ((make_exact lopsided (-5)).1 _).mpr ⟨rfl, ?_⟩
    intro hposDef
    have hcorner := hposDef.diag_pos (i := 1)
    rw [mirrored_add_smul_one, mirrored_lopsided] at hcorner
    norm_num at hcorner

end Factorization

end ProjectedNewton
