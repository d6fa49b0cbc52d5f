import ProjectedNewton.Proofs.Exact.Breakdown

/-!
# Relabelled and reflected variables

The variables of a problem can be listed in another order, and each of them can be replaced by its
negative, which turns its interval around. In exact arithmetic the parts of an iteration go along
with this: what they compute for the new problem is what they computed for the old one, written in
the new variables.

For the Newton step this is not plain. The Cholesky factor depends on the order of the variables,
and so do the blocks of the Hessian that are cut out of it. But the inverse of a matrix does not,
and the step is the inverse times the right side.

* `Relabelling` is a change of variables, on any kind of index. `Relabelling.onFree` is what it does
  to the positions among the free coordinates, so that the free blocks are relabelled, too.
* `Relabelling.problem` is the problem in the new variables.
* `Relabelling.splits_split`, `Relabelling.exists_factorizeAt?_iff`, `Relabelling.directionAt_vec`
  and `Relabelling.landing_vec` are the parts of an iteration in the new variables.
-/

namespace ProjectedNewton

open Matrix

/-- The Newton direction on the free coordinates is the inverse times the right side. -/
theorem Problem.directionAt_free {n : ℕ} {p : Problem ℝ n} {s : Settings ℝ} {x : Vec ℝ n}
    (hH : p.hessianMatrix.IsSymm) {F : Factorization ℝ (p.split x).free.length}
    (hF : p.factorizeAt? s x = some F) :
    (fun k => p.directionAt x F ((p.split x).free.get k))
      = F.inverse.toMatrix *ᵥ fun k => -(p.gradient x ((p.split x).free.get k)
          + s.regularization * x ((p.split x).free.get k)) := by
  have hsymm := isSymm_freeHessian hH (p.split x)
  have hdet : IsUnit ((p.freeHessian (p.split x)).shift s.regularization).toMatrix.det :=
    (isUnit_iff_isUnit_det _).mp (Factorization.posDef hsymm hF).isUnit
  rw [← freeSystem_mulVec_direction hH hF, Factorization.inverse_eq hsymm hF]
  unfold freeSystem
  rw [← toMatrix_shift, mulVec_mulVec, nonsing_inv_mul _ hdet, one_mulVec]

/-- A change of variables: the variable `i` is the variable `index i` of before, or its negative if
`sign i` is `-1`. -/
structure Relabelling (ι κ : Type) where
  index : ι ≃ κ
  sign : ι → ℤˣ

namespace Relabelling

section Index

variable {ι κ : Type} (τ : Relabelling ι κ)

/-- The number `1` or `-1` by which a variable is multiplied. -/
def factor (i : ι) : ℝ := ((τ.sign i : ℤ) : ℝ)

/-- A variable is kept or reflected. -/
theorem sign_cases (i : ι) :
    τ.sign i = 1 ∧ τ.factor i = 1 ∨ τ.sign i ≠ 1 ∧ τ.factor i = -1 := by
  unfold factor
  rcases Int.units_eq_one_or (τ.sign i) with h | h
  · exact Or.inl ⟨h, by simp [h]⟩
  · exact Or.inr ⟨by simp [h], by simp [h]⟩

@[simp] theorem factor_mul_self (i : ι) : τ.factor i * τ.factor i = 1 := by
  rcases τ.sign_cases i with ⟨-, h⟩ | ⟨-, h⟩
  · rw [h, one_mul]
  · rw [h, neg_one_mul, neg_neg]

@[simp] theorem abs_factor (i : ι) : |τ.factor i| = 1 := by
  rcases τ.sign_cases i with ⟨-, h⟩ | ⟨-, h⟩
  · rw [h, abs_one]
  · rw [h, abs_neg, abs_one]

/-- The same entries in the new variables. -/
def relabel (v : κ → ℝ) (i : ι) : ℝ := τ.factor i * v (τ.index i)

/-- The same matrix in the new variables. -/
def relabelMatrix (M : Matrix κ κ ℝ) : Matrix ι ι ℝ :=
  of fun i j => τ.factor i * τ.factor j * M (τ.index i) (τ.index j)

/-- The way back to the old variables. -/
def symm : Relabelling κ ι where
  index := τ.index.symm
  sign i := τ.sign (τ.index.symm i)

theorem factor_symm (i : κ) : τ.symm.factor i = τ.factor (τ.index.symm i) := rfl

theorem relabel_symm (v : ι → ℝ) : τ.relabel (τ.symm.relabel v) = v := by
  funext i
  unfold relabel
  rw [factor_symm, τ.index.symm_apply_apply, ← mul_assoc, factor_mul_self, one_mul]
  exact congrArg v (τ.index.symm_apply_apply i)

theorem symm_relabelMatrix (M : Matrix κ κ ℝ) : τ.symm.relabelMatrix (τ.relabelMatrix M) = M := by
  ext i j
  have hi := τ.factor_mul_self (τ.index.symm i)
  have hj := τ.factor_mul_self (τ.index.symm j)
  show τ.symm.factor i * τ.symm.factor j * (τ.factor (τ.index.symm i) * τ.factor (τ.index.symm j)
    * M (τ.index (τ.index.symm i)) (τ.index (τ.index.symm j))) = M i j
  rw [factor_symm, factor_symm, τ.index.apply_symm_apply, τ.index.apply_symm_apply]
  linear_combination (τ.factor (τ.index.symm j) * τ.factor (τ.index.symm j) * M i j) * hi
    + M i j * hj

/-! ## Sums and products -/

section Algebra

variable (u v : κ → ℝ) (M N : Matrix κ κ ℝ)

theorem relabel_zero : τ.relabel 0 = 0 := by
  funext i
  exact mul_zero _

theorem relabel_add : τ.relabel (u + v) = τ.relabel u + τ.relabel v := by
  funext i
  exact mul_add _ _ _

theorem relabelMatrix_add : τ.relabelMatrix (M + N) = τ.relabelMatrix M + τ.relabelMatrix N := by
  ext i j
  exact mul_add _ _ _

theorem relabelMatrix_smul (r : ℝ) : τ.relabelMatrix (r • M) = r • τ.relabelMatrix M := by
  ext i j
  exact mul_left_comm _ _ _

theorem isSymm_relabelMatrix {M : Matrix κ κ ℝ} (hM : M.IsSymm) : (τ.relabelMatrix M).IsSymm := by
  ext i j
  show τ.factor j * τ.factor i * M (τ.index j) (τ.index i)
    = τ.factor i * τ.factor j * M (τ.index i) (τ.index j)
  rw [hM.apply (τ.index i) (τ.index j), mul_comm (τ.factor j)]

theorem relabelMatrix_one [DecidableEq ι] [DecidableEq κ] :
    τ.relabelMatrix (1 : Matrix κ κ ℝ) = 1 := by
  ext i j
  show τ.factor i * τ.factor j * (1 : Matrix κ κ ℝ) (τ.index i) (τ.index j) = _
  by_cases hij : i = j
  · subst hij
    rw [one_apply_eq, one_apply_eq, mul_one, factor_mul_self]
  · rw [one_apply_ne hij, one_apply_ne (τ.index.injective.ne hij), mul_zero]

variable [Fintype ι] [Fintype κ]

/-- Signs cancel in a product. -/
theorem relabel_dotProduct : τ.relabel u ⬝ᵥ τ.relabel v = u ⬝ᵥ v := by
  unfold dotProduct
  rw [← Equiv.sum_comp τ.index]
  refine Finset.sum_congr rfl ?_
  intro i _
  unfold relabel
  rw [mul_mul_mul_comm, factor_mul_self, one_mul]

theorem relabelMatrix_mulVec : τ.relabelMatrix M *ᵥ τ.relabel v = τ.relabel (M *ᵥ v) := by
  funext i
  show ∑ j, τ.factor i * τ.factor j * M (τ.index i) (τ.index j) * (τ.factor j * v (τ.index j))
    = τ.factor i * ∑ j, M (τ.index i) j * v j
  rw [← Equiv.sum_comp τ.index, Finset.mul_sum]
  refine Finset.sum_congr rfl ?_
  intro j _
  linear_combination (τ.factor i * M (τ.index i) (τ.index j) * v (τ.index j))
    * τ.factor_mul_self j

theorem relabelMatrix_mul :
    τ.relabelMatrix M * τ.relabelMatrix N = τ.relabelMatrix (M * N) := by
  ext i k
  show ∑ j, τ.factor i * τ.factor j * M (τ.index i) (τ.index j)
      * (τ.factor j * τ.factor k * N (τ.index j) (τ.index k))
    = τ.factor i * τ.factor k * ∑ j, M (τ.index i) j * N j (τ.index k)
  rw [← Equiv.sum_comp τ.index, Finset.mul_sum]
  refine Finset.sum_congr rfl ?_
  intro j _
  linear_combination (τ.factor i * M (τ.index i) (τ.index j) * τ.factor k
    * N (τ.index j) (τ.index k)) * τ.factor_mul_self j

/-- **The inverse goes along with a change of variables.** -/
theorem inv_relabelMatrix [DecidableEq ι] [DecidableEq κ] {M : Matrix κ κ ℝ} (hM : IsUnit M) :
    (τ.relabelMatrix M)⁻¹ = τ.relabelMatrix M⁻¹ := by
  refine inv_eq_right_inv ?_
  rw [relabelMatrix_mul, mul_nonsing_inv _ ((isUnit_iff_isUnit_det _).mp hM), relabelMatrix_one]

theorem posDef_relabelMatrix {M : Matrix κ κ ℝ} (hM : M.PosDef) : (τ.relabelMatrix M).PosDef := by
  refine PosDef.of_dotProduct_mulVec_pos (τ.isSymm_relabelMatrix hM.isHermitian) ?_
  intro v hv
  have hback : τ.symm.relabel v ≠ 0 := by
    intro hzero
    refine hv ?_
    rw [← τ.relabel_symm v, hzero, relabel_zero]
  have hpos := hM.dotProduct_mulVec_pos hback
  rw [star_trivial] at hpos ⊢
  rw [← τ.relabel_symm v, relabelMatrix_mulVec, relabel_dotProduct]
  exact hpos

/-- **So does definiteness.** -/
theorem posDef_relabelMatrix_iff {M : Matrix κ κ ℝ} :
    (τ.relabelMatrix M).PosDef ↔ M.PosDef := by
  constructor
  · intro h
    rw [← τ.symm_relabelMatrix M]
    exact τ.symm.posDef_relabelMatrix h
  · exact τ.posDef_relabelMatrix

end Algebra

end Index

variable {n : ℕ} (τ : Relabelling (Fin n) (Fin n))

/-! ## Vectors and problems -/

/-- The vector in the new variables. -/
noncomputable def vec (v : Vec ℝ n) : Vec ℝ n := Vector.ofFn (τ.relabel v.entry)

@[simp] theorem entry_vec (v : Vec ℝ n) (i : Fin n) :
    τ.vec v i = τ.factor i * v (τ.index i) :=
  Vec.entry_ofFn _ i

theorem vec_eq (v : Vec ℝ n) : (τ.vec v).entry = τ.relabel v.entry := funext (τ.entry_vec v)

theorem vec_add (u v : Vec ℝ n) : (τ.vec u).add (τ.vec v) = τ.vec (u.add v) := by
  refine Vec.ext_entry ?_
  intro i
  simp only [Vec.entry_add, entry_vec, mul_add]

theorem vec_sub (u v : Vec ℝ n) : (τ.vec u).sub (τ.vec v) = τ.vec (u.sub v) := by
  refine Vec.ext_entry ?_
  intro i
  simp only [Vec.entry_sub, entry_vec, mul_sub]

theorem vec_scale (v : Vec ℝ n) (a : ℝ) : (τ.vec v).scale a = τ.vec (v.scale a) := by
  refine Vec.ext_entry ?_
  intro i
  simp only [Vec.entry_scale, entry_vec, mul_assoc]

theorem vec_dot (u v : Vec ℝ n) : (τ.vec u).dot (τ.vec v) = u.dot v := by
  rw [Exact.dot_eq, Exact.dot_eq, vec_eq, vec_eq, relabel_dotProduct]

/-- The largest absolute value does not depend on signs and order. -/
theorem maxAbs_vec (v : Vec ℝ n) : (τ.vec v).maxAbs = v.maxAbs := by
  have hentry (i : Fin n) : |τ.vec v i| = |v (τ.index i)| := by
    rw [entry_vec, abs_mul, abs_factor, one_mul]
  refine le_antisymm ?_ ?_
  · refine Exact.maxAbs_le (Exact.le_foldl_larger _ _).1 ?_
    intro i
    rw [hentry]
    exact Exact.abs_le_maxAbs v _
  · refine Exact.maxAbs_le (Exact.le_foldl_larger _ _).1 ?_
    intro i
    have hi := hentry (τ.index.symm i)
    rw [τ.index.apply_symm_apply] at hi
    rw [← hi]
    exact Exact.abs_le_maxAbs (τ.vec v) _

/-- The problem in the new variables. A reflected variable lies between the negatives of its bounds,
in the opposite order. -/
noncomputable def problem (p : Problem ℝ n) : Problem ℝ n where
  hessian := Mat.ofFn (τ.relabelMatrix p.hessianMatrix)
  linear := τ.vec p.linear
  lower := Vector.ofFn fun i =>
    if τ.sign i = 1 then p.lower (τ.index i) else -p.upper (τ.index i)
  upper := Vector.ofFn fun i =>
    if τ.sign i = 1 then p.upper (τ.index i) else -p.lower (τ.index i)

variable (p : Problem ℝ n) (x : Vec ℝ n)

theorem hessianMatrix_problem : (τ.problem p).hessianMatrix = τ.relabelMatrix p.hessianMatrix :=
  Mat.toMatrix_ofFn _

theorem isSymm_problem {p : Problem ℝ n} (hH : p.hessianMatrix.IsSymm) :
    (τ.problem p).hessianMatrix.IsSymm := by
  rw [hessianMatrix_problem]
  exact τ.isSymm_relabelMatrix hH

theorem bounds_of_kept {i : Fin n} (h : τ.sign i = 1) :
    (τ.problem p).lower i = p.lower (τ.index i) ∧ (τ.problem p).upper i = p.upper (τ.index i) := by
  refine ⟨(Vec.entry_ofFn _ i).trans ?_, (Vec.entry_ofFn _ i).trans ?_⟩
  · rw [if_pos h]
  · rw [if_pos h]

theorem bounds_of_reflected {i : Fin n} (h : τ.sign i ≠ 1) :
    (τ.problem p).lower i = -p.upper (τ.index i) ∧
      (τ.problem p).upper i = -p.lower (τ.index i) := by
  refine ⟨(Vec.entry_ofFn _ i).trans ?_, (Vec.entry_ofFn _ i).trans ?_⟩
  · rw [if_neg h]
  · rw [if_neg h]

/-! ## Objective and box -/

theorem value_vec : (τ.problem p).value (τ.vec x) = p.value x := by
  have hlinear : (τ.problem p).linear.entry = τ.relabel p.linear.entry := τ.vec_eq p.linear
  rw [Problem.value_eq, Problem.value_eq, hessianMatrix_problem, hlinear, vec_eq,
    relabelMatrix_mulVec, relabel_dotProduct, relabel_dotProduct]

theorem gradient_vec : (τ.problem p).gradient (τ.vec x) = τ.vec (p.gradient x) := by
  have hlinear : (τ.problem p).linear.entry = τ.relabel p.linear.entry := τ.vec_eq p.linear
  refine Vec.ext_entry (congrFun ?_)
  rw [vec_eq, Problem.gradient_eq, Problem.gradient_eq, hessianMatrix_problem, hlinear, vec_eq,
    relabelMatrix_mulVec, relabel_add]

/-- Moving into an interval and reflecting it can be exchanged, unless its bounds are crossed. -/
theorem clamp_neg {v l u : ℝ} (h : l ≤ u) :
    Scalar.clamp (-v) (-u) (-l) = -Scalar.clamp v l u := by
  rw [Exact.clamp_eq, Exact.clamp_eq, max_neg_neg, min_neg_neg, max_min_distrib_right,
    max_eq_left h]

theorem project_vec {p : Problem ℝ n} (hbox : ∀ i, p.lower i ≤ p.upper i) (x : Vec ℝ n) :
    (τ.problem p).project (τ.vec x) = τ.vec (p.project x) := by
  refine Vec.ext_entry ?_
  intro i
  rw [Problem.entry_project, entry_vec, entry_vec, Problem.entry_project]
  rcases τ.sign_cases i with ⟨hsign, hfactor⟩ | ⟨hsign, hfactor⟩
  · obtain ⟨hlower, hupper⟩ := τ.bounds_of_kept p hsign
    rw [hlower, hupper, hfactor, one_mul, one_mul]
  · obtain ⟨hlower, hupper⟩ := τ.bounds_of_reflected p hsign
    rw [hlower, hupper, hfactor, neg_one_mul, neg_one_mul, clamp_neg (hbox _)]

/-- A variable sits on a bound and is pushed outwards when the old one does and is: a reflection
exchanges the two bounds and turns the push around. -/
theorem isClamped_vec (g : Vec ℝ n) (i : Fin n) :
    (τ.problem p).isClamped (τ.vec x) (τ.vec g) i = p.isClamped x g (τ.index i) := by
  rw [Bool.eq_iff_iff, Problem.isClamped_iff, Problem.isClamped_iff, entry_vec, entry_vec]
  rcases τ.sign_cases i with ⟨hsign, hfactor⟩ | ⟨hsign, hfactor⟩
  · obtain ⟨hlower, hupper⟩ := τ.bounds_of_kept p hsign
    rw [hlower, hupper, hfactor, one_mul, one_mul]
  · obtain ⟨hlower, hupper⟩ := τ.bounds_of_reflected p hsign
    rw [hlower, hupper, hfactor, neg_one_mul, neg_one_mul, neg_inj, neg_inj, neg_pos, neg_lt_zero]
    exact or_comm

/-! ## Free and clamped coordinates -/

/-- Two partitions that list the same coordinates, in the old and in the new variables. -/
structure Splits (part part' : Partition n) : Prop where
  mem_free (i : Fin n) : i ∈ part'.free ↔ τ.index i ∈ part.free
  mem_clamped (i : Fin n) : i ∈ part'.clamped ↔ τ.index i ∈ part.clamped

theorem splits_split : τ.Splits (p.split x) ((τ.problem p).split (τ.vec x)) where
  mem_free := by
    intro i
    rw [Problem.mem_free_iff, Problem.mem_free_iff, gradient_vec, isClamped_vec]
  mem_clamped := by
    intro i
    rw [Problem.mem_clamped_iff, Problem.mem_clamped_iff, gradient_vec, isClamped_vec]

section Free

variable {part part' : Partition n} (hpart : part.IsSplit) (hpart' : part'.IsSplit)
  (h : τ.Splits part part')

/-- The change of variables, read off the positions among the free coordinates. -/
def onFree : Relabelling (Fin part'.free.length) (Fin part.free.length) where
  index := ((hpart'.nodup_free.getEquiv part'.free).trans (τ.index.subtypeEquiv h.mem_free)).trans
    (hpart.nodup_free.getEquiv part.free).symm
  sign k := τ.sign (part'.free.get k)

theorem get_onFree (k : Fin part'.free.length) :
    part.free.get ((τ.onFree hpart hpart' h).index k) = τ.index (part'.free.get k) :=
  congrArg Subtype.val ((hpart.nodup_free.getEquiv part.free).apply_symm_apply _)

/-- To relabel and to keep the free coordinates can be exchanged. -/
theorem relabel_onFree (v : Fin n → ℝ) (k : Fin part'.free.length) :
    (τ.onFree hpart hpart' h).relabel (fun l => v (part.free.get l)) k
      = τ.relabel v (part'.free.get k) :=
  congrArg (fun i => τ.factor (part'.free.get k) * v i) (τ.get_onFree hpart hpart' h k)

include hpart hpart' h in
theorem length_free_eq : part'.free.length = part.free.length := by
  have hcard := Fintype.card_congr (τ.onFree hpart hpart' h).index
  rwa [Fintype.card_fin, Fintype.card_fin] at hcard

end Free

theorem length_free_split :
    ((τ.problem p).split (τ.vec x)).free.length = (p.split x).free.length :=
  τ.length_free_eq (p.isSplit_split x) ((τ.problem p).isSplit_split _) (τ.splits_split p x)

theorem stopStatus?_vec (s : Settings ℝ) :
    (τ.problem p).stopStatus? s (τ.vec x) = p.stopStatus? s x := by
  have hempty : ((τ.problem p).split (τ.vec x)).free.isEmpty = (p.split x).free.isEmpty := by
    rw [Bool.eq_iff_iff, List.isEmpty_iff_length_eq_zero, List.isEmpty_iff_length_eq_zero,
      length_free_split]
  unfold Problem.stopStatus?
  rw [gradient_vec, maxAbs_vec, hempty]

/-! ## The Newton system -/

/-- The matrix of the Newton system, in the new variables. -/
theorem freeSystem_problem {part part' : Partition n} (hpart : part.IsSplit)
    (hpart' : part'.IsSplit) (h : τ.Splits part part') (r : ℝ) :
    (τ.problem p).freeSystem part' r
      = (τ.onFree hpart hpart' h).relabelMatrix (p.freeSystem part r) := by
  have hblock : ((τ.problem p).freeHessian part').toMatrix
      = (τ.onFree hpart hpart' h).relabelMatrix (p.freeHessian part).toMatrix := by
    unfold Problem.freeHessian
    rw [Exact.block_eq, Exact.block_eq]
    change (τ.problem p).hessianMatrix.submatrix _ _
      = (τ.onFree hpart hpart' h).relabelMatrix (p.hessianMatrix.submatrix _ _)
    rw [hessianMatrix_problem]
    ext k l
    show _ = _ * p.hessianMatrix (part.free.get _) (part.free.get _)
    rw [get_onFree, get_onFree]
    rfl
  unfold Problem.freeSystem
  rw [hblock, relabelMatrix_add, relabelMatrix_smul, relabelMatrix_one]

variable {p x} {s : Settings ℝ}

/-- **A factorization can be made in the new variables if it can in the old ones.** -/
theorem exists_factorizeAt?_iff (hH : p.hessianMatrix.IsSymm) :
    (∃ F, (τ.problem p).factorizeAt? s (τ.vec x) = some F) ↔ ∃ F, p.factorizeAt? s x = some F := by
  rw [Problem.exists_factorizeAt?_iff (τ.isSymm_problem hH), Problem.exists_factorizeAt?_iff hH,
    τ.freeSystem_problem p (p.isSplit_split x) (Problem.isSplit_split _ _) (τ.splits_split p x),
    posDef_relabelMatrix_iff]

/-- **The entries of the inverse go along.** -/
theorem inverse_problem (hH : p.hessianMatrix.IsSymm) {part part' : Partition n} {r : ℝ}
    (hpart : part.IsSplit) (hpart' : part'.IsSplit) (h : τ.Splits part part')
    {F : Factorization ℝ part.free.length} {F' : Factorization ℝ part'.free.length}
    (hF : p.factorizeFree? part r = some F)
    (hF' : (τ.problem p).factorizeFree? part' r = some F') :
    F'.inverse.toMatrix = (τ.onFree hpart hpart' h).relabelMatrix F.inverse.toMatrix := by
  have hsymm := Problem.isSymm_freeHessian hH part
  have hdefinite := Factorization.posDef hsymm hF
  rw [Factorization.inverse_eq (Problem.isSymm_freeHessian (τ.isSymm_problem hH) part') hF',
    Factorization.inverse_eq hsymm hF, Problem.toMatrix_shift]
  rw [Problem.toMatrix_shift] at hdefinite ⊢
  rw [← inv_relabelMatrix _ hdefinite.isUnit]
  exact congrArg _ (τ.freeSystem_problem p hpart hpart' h r)

section Point

-- The point in the new variables is kept apart from `τ.vec x`, for factorizations at that point.
variable {x' : Vec ℝ n} (hx : x' = τ.vec x) (hH : p.hessianMatrix.IsSymm)
  {F : Factorization ℝ (p.split x).free.length}
  {F' : Factorization ℝ ((τ.problem p).split x').free.length}
  (hF : p.factorizeAt? s x = some F) (hF' : (τ.problem p).factorizeAt? s x' = some F')
include hx hH hF hF'

/-- **The Newton direction goes along.** -/
theorem directionAt_vec : (τ.problem p).directionAt x' F' = τ.vec (p.directionAt x F) := by
  subst hx
  have hsplits := τ.splits_split p x
  have hsplit := p.isSplit_split x
  have hsplit' := (τ.problem p).isSplit_split (τ.vec x)
  have hinverse := τ.inverse_problem hH hsplit hsplit' hsplits hF hF'
  refine Vec.ext_entry ?_
  intro i
  rcases hsplit'.exhaustive i with hfree | hclamped
  · obtain ⟨k, rfl⟩ := List.get_of_mem hfree
    have hright : (fun l => -((τ.problem p).gradient (τ.vec x)
          (((τ.problem p).split (τ.vec x)).free.get l)
          + s.regularization * τ.vec x (((τ.problem p).split (τ.vec x)).free.get l)))
        = (τ.onFree hsplit hsplit' hsplits).relabel
          fun l => -(p.gradient x ((p.split x).free.get l)
            + s.regularization * x ((p.split x).free.get l)) := by
      funext l
      rw [τ.relabel_onFree hsplit hsplit' hsplits
        (fun i => -(p.gradient x i + s.regularization * x i)), gradient_vec, entry_vec, entry_vec]
      unfold relabel
      ring
    have hnew := congrFun (Problem.directionAt_free (τ.isSymm_problem hH) hF') k
    rw [hright, hinverse, relabelMatrix_mulVec, ← Problem.directionAt_free hH hF,
      τ.relabel_onFree hsplit hsplit' hsplits (p.directionAt x F).entry] at hnew
    rw [entry_vec]
    exact hnew
  · rw [entry_vec, Problem.directionAt_of_clamped hclamped,
      Problem.directionAt_of_clamped ((hsplits.mem_clamped i).mp hclamped), mul_zero]

/-! ## The line search -/

section Box

variable (hbox : ∀ i, p.lower i ≤ p.upper i)
include hbox

theorem candidate_vec (a : ℝ) :
    ((τ.problem p).search s x' F').candidate a = τ.vec ((p.search s x F).candidate a) := by
  show (τ.problem p).project ((((τ.problem p).directionAt x' F').scale a).add x')
    = τ.vec (p.project (((p.directionAt x F).scale a).add x))
  rw [τ.directionAt_vec hx hH hF hF', hx, vec_scale, vec_add, τ.project_vec hbox]

/-- **The same step lengths are accepted.** -/
theorem accepts_vec (a : ℝ) :
    ((τ.problem p).search s x' F').accepts a = (p.search s x F).accepts a := by
  have hcandidate := τ.candidate_vec hx hH hF hF' hbox a
  have hreduction : ((τ.problem p).search s x' F').reduction a = (p.search s x F).reduction a := by
    show (τ.problem p).value x' - (τ.problem p).value (((τ.problem p).search s x' F').candidate a)
      = p.value x - p.value ((p.search s x F).candidate a)
    rw [hcandidate, hx, value_vec, value_vec]
  have hprediction : Vec.dot ((τ.problem p).gradient x')
        (x'.sub (((τ.problem p).search s x' F').candidate a))
      = Vec.dot (p.gradient x) (x.sub ((p.search s x F).candidate a)) := by
    rw [hcandidate, hx, gradient_vec, vec_sub, vec_dot]
  unfold LineSearch.accepts
  rw [hreduction]
  exact congrArg (fun b => Scalar.lt (s.acceptStepThreshold * b) _) hprediction

/-- **The line search goes along.** -/
theorem landing_vec :
    ((τ.problem p).search s x' F').landing = τ.vec (p.search s x F).landing := by
  have hlength : ((τ.problem p).search s x' F').acceptedLength
      = (p.search s x F).acceptedLength := by
    unfold LineSearch.acceptedLength
    rw [funext (τ.accepts_vec hx hH hF hF' hbox)]
  unfold LineSearch.landing
  rw [hlength]
  cases (p.search s x F).acceptedLength with
  | none => exact hx
  | some a => exact τ.candidate_vec hx hH hF hF' hbox a

end Box

end Point

end Relabelling

end ProjectedNewton
