import ProjectedNewton.Proofs.Exact.Cholesky
import ProjectedNewton.Proofs.Problem.Box

/-!
# The objective in exact arithmetic

For a symmetric Hessian `H` the objective is its own second-order expansion, and `Problem.gradient`
is its gradient. For a positive semidefinite `H` it therefore lies above its tangents. The Newton
direction is the solution of a linear system on the free coordinates.

* `Problem.value_sub` is the expansion of the objective, `Problem.value_sub_le` the tangent bound.
* `Problem.freeSystem` is the regularized Hessian of the free coordinates, and
  `Problem.freeSystem_mulVec_direction` the Newton equation: the regularization `r` moves its right
  side by `r x`, so that a Newton step of length zero does not mean a gradient of zero.
-/

namespace ProjectedNewton

open Matrix

variable {n : ℕ}

namespace Problem

variable {p : Problem ℝ n} {x y : Vec ℝ n} {i : Fin n}

/-- The Hessian as a matrix. -/
def hessianMatrix (p : Problem ℝ n) : Matrix (Fin n) (Fin n) ℝ := p.hessian.toMatrix

/-! ## Expansion of the objective -/

theorem value_eq (p : Problem ℝ n) (x : Vec ℝ n) :
    p.value x = 1 / 2 * (x.entry ⬝ᵥ p.hessianMatrix *ᵥ x.entry) + p.linear.entry ⬝ᵥ x.entry :=
  Exact.quadraticValue_eq p.hessian p.linear x

theorem gradient_eq (p : Problem ℝ n) (x : Vec ℝ n) :
    (p.gradient x).entry = p.hessianMatrix *ᵥ x.entry + p.linear.entry := by
  unfold gradient hessianMatrix
  rw [← Exact.mulVec_eq]
  exact funext (Vec.entry_add _ _)

/-- In a symmetric form the two arguments can be exchanged. -/
theorem dotProduct_mulVec_comm {M : Matrix (Fin n) (Fin n) ℝ} (hM : M.IsSymm) (u v : Fin n → ℝ) :
    u ⬝ᵥ M *ᵥ v = v ⬝ᵥ M *ᵥ u := by
  calc u ⬝ᵥ M *ᵥ v = u ᵥ* M ⬝ᵥ v := dotProduct_mulVec u M v
    _ = M *ᵥ u ⬝ᵥ v := by rw [← vecMul_transpose, hM]
    _ = v ⬝ᵥ M *ᵥ u := dotProduct_comm _ _

/-- **The second-order expansion of the objective.** -/
theorem value_sub (hH : p.hessianMatrix.IsSymm) (x y : Vec ℝ n) :
    p.value y - p.value x = (p.gradient x).entry ⬝ᵥ (y.entry - x.entry)
      + 1 / 2 * ((y.entry - x.entry) ⬝ᵥ p.hessianMatrix *ᵥ (y.entry - x.entry)) := by
  have hsymm := dotProduct_mulVec_comm hH y.entry x.entry
  have hlinear : p.hessianMatrix *ᵥ x.entry ⬝ᵥ (y.entry - x.entry)
      = x.entry ⬝ᵥ p.hessianMatrix *ᵥ y.entry - x.entry ⬝ᵥ p.hessianMatrix *ᵥ x.entry := by
    rw [dotProduct_comm, sub_dotProduct, hsymm]
  rw [value_eq, value_eq, gradient_eq, add_dotProduct, hlinear]
  simp only [mulVec_sub, dotProduct_sub, sub_dotProduct]
  rw [hsymm]
  ring

/-- **A convex objective lies above its tangents.** -/
theorem value_sub_le (hH : p.hessianMatrix.PosSemidef) (x y : Vec ℝ n) :
    p.value x - p.value y ≤ (p.gradient x).entry ⬝ᵥ (x.entry - y.entry) := by
  have hsymm : p.hessianMatrix.IsSymm := hH.isHermitian
  have hcurvature := hH.dotProduct_mulVec_nonneg (y.entry - x.entry)
  rw [star_trivial] at hcurvature
  have hexpansion := value_sub hsymm x y
  have hneg : (p.gradient x).entry ⬝ᵥ (x.entry - y.entry)
      = -((p.gradient x).entry ⬝ᵥ (y.entry - x.entry)) := by
    rw [← dotProduct_neg, neg_sub]
  linarith

/-! ## The box and the partition -/

theorem isClamped_iff {g : Vec ℝ n} :
    p.isClamped x g i ↔ x i = p.lower i ∧ 0 < g i ∨ x i = p.upper i ∧ g i < 0 := by
  simp [isClamped]

/-! ## The Newton equation -/

/-- The regularized Hessian of the free coordinates. -/
def freeSystem (p : Problem ℝ n) (part : Partition n) (r : ℝ) :
    Matrix (Fin part.free.length) (Fin part.free.length) ℝ :=
  (p.freeHessian part).toMatrix + r • 1

theorem toMatrix_shift (M : Mat ℝ n n) (r : ℝ) : (M.shift r).toMatrix = M.toMatrix + r • 1 := by
  ext i j
  rw [Mat.toMatrix_apply, Exact.shift_apply, Matrix.add_apply, Matrix.smul_apply,
    Matrix.one_apply, smul_eq_mul, mul_ite, mul_one, mul_zero, Mat.toMatrix_apply]

theorem isSymm_freeHessian (hH : p.hessianMatrix.IsSymm) (part : Partition n) :
    (p.freeHessian part).toMatrix.IsSymm := by
  unfold freeHessian
  rw [Exact.block_eq]
  exact hH.submatrix part.free.get

/-- The gradient on a free coordinate, with the free and the clamped coordinates told apart. -/
theorem gradient_free (part : Partition n) (h : part.IsSplit) (x : Vec ℝ n)
    (k : Fin part.free.length) : p.gradient x (part.free.get k)
      = ((p.freeHessian part).toMatrix *ᵥ (x.pick part.free).entry) k
        - p.newtonRightSide part x k := by
  have hfree := Exact.block_mulVec p.hessian part.free h.nodup_free x k
  have hclamped := Exact.block_mulVec p.hessian part.free h.nodup_clamped x k
  have hall := h.sum_eq fun j => p.hessian (part.free.get k) j * x j
  unfold newtonRightSide gradient
  rw [Vec.entry_add, Mat.entry_mulVec, Vec.entry_sub, Vec.entry_neg, Vec.entry_pick,
    Exact.mulVec_eq, Exact.dot_eq]
  unfold freeHessian crossHessian
  rw [hfree, hclamped]
  unfold dotProduct
  rw [hall]
  ring

/-- **The Newton direction solves the system of the free coordinates.** -/
theorem freeSystem_mulVec_direction (hH : p.hessianMatrix.IsSymm) {s : Settings ℝ}
    {F : Factorization ℝ (p.split x).free.length} (hF : p.factorizeAt? s x = some F) :
    p.freeSystem (p.split x) s.regularization *ᵥ
        (fun k => p.directionAt x F ((p.split x).free.get k))
      = fun k => -(p.gradient x ((p.split x).free.get k)
          + s.regularization * x ((p.split x).free.get k)) := by
  have hsplit := p.isSplit_split x
  have htarget : p.freeSystem (p.split x) s.regularization *ᵥ
      (p.newtonTarget (p.split x) F x).entry = (p.newtonRightSide (p.split x) x).entry := by
    unfold freeSystem
    rw [← toMatrix_shift]
    exact Factorization.mulVec_solve (isSymm_freeHessian hH _) hF _
  have hdirection : (fun k => p.directionAt x F ((p.split x).free.get k))
      = (p.newtonTarget (p.split x) F x).entry - (x.pick (p.split x).free).entry := by
    funext k
    unfold directionAt newtonDirection
    rw [Vec.spread_get hsplit.nodup_free, Vec.entry_sub]
    rfl
  rw [hdirection, mulVec_sub, htarget]
  funext k
  rw [gradient_free _ hsplit x k]
  unfold freeSystem
  rw [add_mulVec, smul_mulVec, one_mulVec, Pi.sub_apply, Pi.add_apply, Pi.smul_apply,
    Vec.entry_pick, smul_eq_mul]
  ring

/-- The Hessian only sees the free coordinates of a vector that is zero on the clamped ones. -/
theorem dotProduct_mulVec_free {part : Partition n} (hpart : part.IsSplit) {v : Vec ℝ n}
    (hv : ∀ i ∈ part.clamped, v i = 0) : v.entry ⬝ᵥ p.hessianMatrix *ᵥ v.entry
      = (v.pick part.free).entry ⬝ᵥ
        (p.freeHessian part).toMatrix *ᵥ (v.pick part.free).entry := by
  have hsum (f : Fin n → ℝ) (hf : ∀ i ∈ part.clamped, f i = 0) :
      ∑ i, f i = ∑ i ∈ part.free.toFinset, f i := by
    rw [hpart.sum_eq f, Finset.sum_eq_zero fun i hi => hf i (List.mem_toFinset.mp hi), add_zero]
  have hrow (k : Fin part.free.length) :
      ((p.freeHessian part).toMatrix *ᵥ (v.pick part.free).entry) k
        = (p.hessianMatrix *ᵥ v.entry) (part.free.get k) := by
    unfold freeHessian
    rw [Exact.block_mulVec _ _ hpart.nodup_free]
    refine (hsum (fun j => p.hessian (part.free.get k) j * v j) ?_).symm
    intro j hj
    rw [hv j hj, mul_zero]
  calc v.entry ⬝ᵥ p.hessianMatrix *ᵥ v.entry
      = ∑ i ∈ part.free.toFinset, v i * (p.hessianMatrix *ᵥ v.entry) i := by
        refine hsum (fun i => v i * (p.hessianMatrix *ᵥ v.entry) i) ?_
        intro i hi
        rw [hv i hi, zero_mul]
    _ = ∑ k, v (part.free.get k) * (p.hessianMatrix *ᵥ v.entry) (part.free.get k) :=
        (Exact.sum_get hpart.nodup_free _).symm
    _ = _ := by
        refine Finset.sum_congr rfl ?_
        intro k _
        rw [hrow, Vec.entry_pick]

end Problem

end ProjectedNewton
