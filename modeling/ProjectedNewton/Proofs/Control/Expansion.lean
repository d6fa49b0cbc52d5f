import ProjectedNewton.Proofs.Exact.Newton
import ProjectedNewton.Control.Backward

/-!
# The models of a backward pass

A backward pass describes the cost of what follows a knot by quadratic models. The model at a knot
is exact: it is the change of the cost of the knot, and of the model behind it, when state and
control are changed (`Plant.value_expand`). And if the control follows a correction and a gain, then
the model in front of the knot is exact up to a number that does not depend on the state, which is
the objective of the correction (`KnotModel.value_backup`).

* `ValueModel.value`, `KnotModel.value` and `Plant.stageCost` are the values that are compared.
* `Plant.controlHessian_expand` and its companions give the parts of a model as matrices, and
  `Plant.hessian_backup_expand` the Hessian in front of a knot: the state moves by `A + B K`.
* `Plant.posDef_controlHessian` and `Plant.posSemidef_backup`: with convex costs all models are
  convex, and strictly so in the control.
-/

namespace ProjectedNewton

open Matrix

variable {n m : ℕ}

/-! ## Values -/

/-- What a model says about the deviation `δ` of the state. -/
noncomputable def ValueModel.value (V : ValueModel ℝ n) (δ : Fin n → ℝ) : ℝ :=
  V.gradient.entry ⬝ᵥ δ + Scalar.half * (δ ⬝ᵥ V.hessian.toMatrix *ᵥ δ)

/-- What a model says about the deviations `δ` of the state and `v` of the control. -/
noncomputable def KnotModel.value (model : KnotModel ℝ n m) (δ : Fin n → ℝ) (v : Fin m → ℝ) : ℝ :=
  model.stateGradient.entry ⬝ᵥ δ + model.controlGradient.entry ⬝ᵥ v
    + Scalar.half * (δ ⬝ᵥ model.stateHessian.toMatrix *ᵥ δ)
    + Scalar.half * (v ⬝ᵥ model.controlHessian.toMatrix *ᵥ v) + v ⬝ᵥ model.mixed.toMatrix *ᵥ δ

/-- The cost of a state and a control. -/
noncomputable def Plant.stageCost (plant : Plant ℝ n m) (x : Fin n → ℝ) (u : Fin m → ℝ) : ℝ :=
  Scalar.half * (x ⬝ᵥ plant.stateCost.toMatrix *ᵥ x)
    + Scalar.half * (u ⬝ᵥ plant.controlCost.toMatrix *ᵥ u)

/-- The costs of state and control are symmetric forms. -/
structure Plant.Symmetric (plant : Plant ℝ n m) : Prop where
  stateCost : plant.stateCost.toMatrix.IsSymm
  controlCost : plant.controlCost.toMatrix.IsSymm

/-- The costs of state and control are convex, that of the control strictly. -/
structure Plant.Convex (plant : Plant ℝ n m) : Prop where
  stateCost : plant.stateCost.toMatrix.PosSemidef
  controlCost : plant.controlCost.toMatrix.PosDef

/-- The mixed term of a symmetric form counts twice. -/
theorem dotProduct_mulVec_add {k : ℕ} {M : Matrix (Fin k) (Fin k) ℝ} (hM : M.IsSymm)
    (u v : Fin k → ℝ) :
    (u + v) ⬝ᵥ M *ᵥ (u + v) = u ⬝ᵥ M *ᵥ u + 2 * (M *ᵥ u ⬝ᵥ v) + v ⬝ᵥ M *ᵥ v := by
  have hswap : u ⬝ᵥ M *ᵥ v = M *ᵥ u ⬝ᵥ v := by
    rw [mulVec_dotProduct, hM]
  have hcomm : v ⬝ᵥ M *ᵥ u = M *ᵥ u ⬝ᵥ v := dotProduct_comm _ _
  rw [mulVec_add, add_dotProduct, dotProduct_add, dotProduct_add, hswap, hcomm]
  ring

theorem transpose_mulVec_dotProduct {a b : ℕ} (A : Matrix (Fin a) (Fin b) ℝ) (w : Fin a → ℝ)
    (z : Fin b → ℝ) : Aᵀ *ᵥ w ⬝ᵥ z = w ⬝ᵥ A *ᵥ z := by
  rw [mulVec_dotProduct, transpose_transpose]

/-- A form between mapped arguments. -/
theorem dotProduct_mul_mulVec {a b c d : ℕ} (C : Matrix (Fin b) (Fin a) ℝ)
    (P : Matrix (Fin b) (Fin c) ℝ) (D : Matrix (Fin c) (Fin d) ℝ) (w : Fin a → ℝ) (z : Fin d → ℝ) :
    w ⬝ᵥ (Cᵀ * P * D) *ᵥ z = C *ᵥ w ⬝ᵥ P *ᵥ (D *ᵥ z) := by
  rw [mulVec_dotProduct, mulVec_mulVec, mulVec_mulVec, Matrix.mul_assoc]

namespace Plant

variable {plant : Plant ℝ n m} (V : ValueModel ℝ n) (x : Vec ℝ n) (u : Vec ℝ m)

/-! ## The parts of a model -/

theorem controlHessian_expand : (plant.expand V x u).controlHessian.toMatrix
      = plant.controlCost.toMatrix
        + plant.controlMap.toMatrixᵀ * V.hessian.toMatrix * plant.controlMap.toMatrix := by
  unfold expand
  dsimp only
  rw [Mat.toMatrix_add, Mat.toMatrix_mul, Mat.toMatrix_mul, Mat.toMatrix_transpose]

theorem stateHessian_expand : (plant.expand V x u).stateHessian.toMatrix
      = plant.stateCost.toMatrix
        + plant.stateMap.toMatrixᵀ * V.hessian.toMatrix * plant.stateMap.toMatrix := by
  unfold expand
  dsimp only
  rw [Mat.toMatrix_add, Mat.toMatrix_mul, Mat.toMatrix_mul, Mat.toMatrix_transpose]

theorem mixed_expand : (plant.expand V x u).mixed.toMatrix
      = plant.controlMap.toMatrixᵀ * V.hessian.toMatrix * plant.stateMap.toMatrix := by
  unfold expand
  dsimp only
  rw [Mat.toMatrix_mul, Mat.toMatrix_mul, Mat.toMatrix_transpose]

theorem stateGradient_expand : (plant.expand V x u).stateGradient.entry
      = plant.stateCost.toMatrix *ᵥ x.entry + plant.stateMap.toMatrixᵀ *ᵥ V.gradient.entry := by
  unfold expand
  dsimp only
  rw [Exact.add_eq, Exact.mulVec_eq, Exact.mulVec_eq, Mat.toMatrix_transpose]

theorem controlGradient_expand : (plant.expand V x u).controlGradient.entry
      = plant.controlCost.toMatrix *ᵥ u.entry
        + plant.controlMap.toMatrixᵀ *ᵥ V.gradient.entry := by
  unfold expand
  dsimp only
  rw [Exact.add_eq, Exact.mulVec_eq, Exact.mulVec_eq, Mat.toMatrix_transpose]

theorem isSymm_controlHessian (hR : plant.controlCost.toMatrix.IsSymm)
    (hV : V.hessian.toMatrix.IsSymm) :
    (plant.expand V x u).controlHessian.toMatrix.IsSymm := by
  rw [controlHessian_expand]
  refine hR.add ?_
  unfold IsSymm
  rw [transpose_mul, transpose_mul, transpose_transpose, hV, Matrix.mul_assoc]

/-! ## Exactness -/

variable {V} in
/-- **The model at a knot is exact.** -/
theorem value_expand (hplant : plant.Symmetric) (hV : V.hessian.toMatrix.IsSymm)
    (δ : Fin n → ℝ) (v : Fin m → ℝ) : (plant.expand V x u).value δ v
      = plant.stageCost (x.entry + δ) (u.entry + v) - plant.stageCost x.entry u.entry
        + V.value (plant.stateMap.toMatrix *ᵥ δ + plant.controlMap.toMatrix *ᵥ v) := by
  have hmixed : plant.controlMap.toMatrix *ᵥ v
        ⬝ᵥ V.hessian.toMatrix *ᵥ (plant.stateMap.toMatrix *ᵥ δ)
      = V.hessian.toMatrix *ᵥ (plant.stateMap.toMatrix *ᵥ δ) ⬝ᵥ plant.controlMap.toMatrix *ᵥ v :=
    dotProduct_comm _ _
  unfold KnotModel.value ValueModel.value stageCost
  rw [stateGradient_expand, controlGradient_expand, stateHessian_expand, controlHessian_expand,
    mixed_expand, dotProduct_mulVec_add hplant.stateCost, dotProduct_mulVec_add hplant.controlCost,
    dotProduct_mulVec_add hV, Exact.half_eq]
  simp only [add_dotProduct, dotProduct_add, add_mulVec, dotProduct_mul_mulVec,
    transpose_mulVec_dotProduct]
  rw [hmixed]
  ring

end Plant

namespace KnotModel

variable (model : KnotModel ℝ n m) (k : Vec ℝ m) (K : Mat ℝ m n)

theorem gradient_backup : (model.backup k K).gradient.entry
      = model.stateGradient.entry + (K.toMatrixᵀ * model.controlHessian.toMatrix) *ᵥ k.entry
        + K.toMatrixᵀ *ᵥ model.controlGradient.entry + model.mixed.toMatrixᵀ *ᵥ k.entry := by
  unfold backup
  dsimp only
  rw [Exact.add_eq, Exact.add_eq, Exact.add_eq, Exact.mulVec_eq, Exact.mulVec_eq, Exact.mulVec_eq,
    Mat.toMatrix_mul, Mat.toMatrix_transpose, Mat.toMatrix_transpose]

/-- The Hessian in front of a knot, before it is made symmetric. -/
noncomputable def closedLoop : Matrix (Fin n) (Fin n) ℝ :=
  model.stateHessian.toMatrix + K.toMatrixᵀ * model.controlHessian.toMatrix * K.toMatrix
    + K.toMatrixᵀ * model.mixed.toMatrix + model.mixed.toMatrixᵀ * K.toMatrix

theorem hessian_backup : (model.backup k K).hessian.toMatrix
      = (1 / 2 : ℝ) • (model.closedLoop K + (model.closedLoop K)ᵀ) := by
  unfold backup closedLoop
  dsimp only
  simp only [Mat.toMatrix_scale, Mat.toMatrix_add, Mat.toMatrix_transpose, Mat.toMatrix_mul,
    Exact.half_eq]

theorem isSymm_hessian_backup : (model.backup k K).hessian.toMatrix.IsSymm := by
  rw [hessian_backup]
  unfold IsSymm
  rw [transpose_smul, transpose_add, transpose_transpose, add_comm]

/-- The model in front of a knot, in numbers. -/
theorem backup_single (model : KnotModel ℝ 1 1) (k : Vec ℝ 1) (K : Mat ℝ 1 1) :
    (model.backup k K).gradient 0 = model.stateGradient 0
      + K 0 0 * model.controlHessian 0 0 * k 0 + K 0 0 * model.controlGradient 0
      + model.mixed 0 0 * k 0 ∧
    (model.backup k K).hessian 0 0 = model.stateHessian 0 0
      + K 0 0 * model.controlHessian 0 0 * K 0 0 + 2 * (K 0 0 * model.mixed 0 0) := by
  constructor
  · have hgradient := congrFun (gradient_backup model k K) 0
    simpa [mulVec, dotProduct, Matrix.mul_apply] using hgradient
  · have hhessian := congrFun (congrFun (hessian_backup model k K) 0) 0
    simp [closedLoop, Matrix.mul_apply] at hhessian
    linarith

/-- A quadratic form does not change when its matrix is made symmetric. -/
theorem dotProduct_hessian_backup (δ : Fin n → ℝ) :
    δ ⬝ᵥ (model.backup k K).hessian.toMatrix *ᵥ δ = δ ⬝ᵥ model.closedLoop K *ᵥ δ := by
  have htranspose : δ ⬝ᵥ (model.closedLoop K)ᵀ *ᵥ δ = δ ⬝ᵥ model.closedLoop K *ᵥ δ := by
    rw [← mulVec_dotProduct, dotProduct_comm]
  rw [hessian_backup, smul_mulVec, dotProduct_smul, add_mulVec, dotProduct_add, htranspose,
    smul_eq_mul]
  ring

variable {model}

/-- **The model in front of a knot is exact**, up to the objective of the correction. -/
theorem value_backup (hmodel : model.controlHessian.toMatrix.IsSymm) (δ : Fin n → ℝ) :
    model.value δ (k.entry + K.toMatrix *ᵥ δ) = (model.backup k K).value δ
      + quadraticValue model.controlHessian model.controlGradient k := by
  have hweighted : (K.toMatrixᵀ * model.controlHessian.toMatrix) *ᵥ k.entry ⬝ᵥ δ
      = model.controlHessian.toMatrix *ᵥ k.entry ⬝ᵥ K.toMatrix *ᵥ δ := by
    rw [← mulVec_mulVec, transpose_mulVec_dotProduct]
  have hmixed : δ ⬝ᵥ (K.toMatrixᵀ * model.mixed.toMatrix) *ᵥ δ
      = K.toMatrix *ᵥ δ ⬝ᵥ model.mixed.toMatrix *ᵥ δ := by
    rw [← mulVec_mulVec, ← mulVec_dotProduct]
  have hmixed' : δ ⬝ᵥ (model.mixed.toMatrixᵀ * K.toMatrix) *ᵥ δ
      = K.toMatrix *ᵥ δ ⬝ᵥ model.mixed.toMatrix *ᵥ δ := by
    rw [← mulVec_mulVec, ← mulVec_dotProduct, dotProduct_comm]
  unfold KnotModel.value ValueModel.value
  rw [dotProduct_hessian_backup, gradient_backup, Exact.quadraticValue_eq,
    dotProduct_mulVec_add hmodel, Exact.half_eq]
  unfold closedLoop
  simp only [add_dotProduct, dotProduct_add, add_mulVec, dotProduct_mul_mulVec,
    transpose_mulVec_dotProduct]
  rw [hweighted, hmixed, hmixed']
  ring

end KnotModel

/-! ## Convexity -/

namespace Plant

variable {plant : Plant ℝ n m} {V : ValueModel ℝ n} (x : Vec ℝ n) (u : Vec ℝ m)

theorem Convex.symmetric (h : plant.Convex) : plant.Symmetric :=
  ⟨h.stateCost.isHermitian, h.controlCost.isHermitian⟩

/-- With convex costs, the objective of the correction is strictly convex. -/
theorem posDef_controlHessian (hplant : plant.Convex) (hV : V.hessian.toMatrix.PosSemidef) :
    (plant.expand V x u).controlHessian.toMatrix.PosDef := by
  rw [controlHessian_expand]
  exact hplant.controlCost.add_posSemidef (hV.conjTranspose_mul_mul_same _)

/-- **The Hessian in front of a knot.** The state moves by `A + B K`. -/
theorem closedLoop_expand (hV : V.hessian.toMatrix.IsSymm) (K : Mat ℝ m n) :
    (plant.expand V x u).closedLoop K = plant.stateCost.toMatrix
      + K.toMatrixᵀ * plant.controlCost.toMatrix * K.toMatrix
      + (plant.stateMap.toMatrix + plant.controlMap.toMatrix * K.toMatrix)ᵀ * V.hessian.toMatrix
        * (plant.stateMap.toMatrix + plant.controlMap.toMatrix * K.toMatrix) := by
  unfold KnotModel.closedLoop
  rw [stateHessian_expand, controlHessian_expand, mixed_expand]
  simp only [transpose_mul, transpose_add, transpose_transpose, hV.eq, Matrix.add_mul,
    Matrix.mul_add, Matrix.mul_assoc]
  abel

/-- **With convex costs, the model in front of a knot is convex** if the one behind it is. -/
theorem posSemidef_backup (hplant : plant.Convex) (hV : V.hessian.toMatrix.PosSemidef)
    (k : Vec ℝ m) (K : Mat ℝ m n) :
    ((plant.expand V x u).backup k K).hessian.toMatrix.PosSemidef := by
  have hloop : ((plant.expand V x u).closedLoop K).PosSemidef := by
    rw [closedLoop_expand x u hV.isHermitian]
    exact (hplant.stateCost.add (hplant.controlCost.posSemidef.conjTranspose_mul_mul_same _)).add
      (hV.conjTranspose_mul_mul_same _)
  rw [KnotModel.hessian_backup]
  exact (hloop.add hloop.transpose).smul (by norm_num)

end Plant

/-! ## A plant with one knot to correct -/

/-- One state, which two controls push. The first one must not be lowered. -/
noncomputable def Plant.corner : Plant ℝ 1 2 where
  stateMap := Mat.ofInts ![![1]]
  controlMap := Mat.ofInts ![![1, 1]]
  stateCost := Mat.ofInts ![![1]]
  controlCost := Mat.ofInts ![![4, 3], ![3, 3]]
  lower := Vec.ofInts ![0, -2]
  upper := Vec.ofInts ![1, 2]

/-- The state stays at four without control. -/
noncomputable def Trajectory.corner : Trajectory ℝ 1 2 1 where
  states := Vector.ofFn fun _ => Vec.ofInts ![4]
  controls := Vector.ofFn fun _ => Vec.zero 2

namespace Plant

theorem stateCost_corner : corner.stateCost.toMatrix = 1 := by
  refine (Mat.toMatrix_ofInts _).trans ?_
  ext i j
  fin_cases i; fin_cases j; simp

theorem controlCost_corner : corner.controlCost.toMatrix = !![4, 3; 3, 3] := by
  refine (Mat.toMatrix_ofInts _).trans ?_
  ext i j
  fin_cases i <;> fin_cases j <;> simp

theorem controlMap_corner : corner.controlMap.toMatrix = !![1, 1] := by
  refine (Mat.toMatrix_ofInts _).trans ?_
  ext i j
  fin_cases i; fin_cases j <;> simp

theorem convex_corner : corner.Convex where
  stateCost := by
    rw [stateCost_corner]
    exact PosSemidef.one
  controlCost := by
    have hform : (!![4, 3; 3, 3] : Matrix (Fin 2) (Fin 2) ℝ) = !![1 + 3, 3; 3, 3] := by norm_num
    rw [controlCost_corner, hform]
    exact Problem.posDef_square_add three_pos

theorem state_corner (i : Fin 2) : (Trajectory.corner.state i).entry = ![4] := by
  have h : Trajectory.corner.state i = Vec.ofInts ![4] := Vec.entry_ofFn _ i
  rw [h]
  funext j
  rw [Vec.entry_ofInts]
  fin_cases j; simp

theorem control_corner : Trajectory.corner.control 0 = Vec.zero 2 := Vec.entry_ofFn _ 0

/-- The problem at the knot is the corner. -/
theorem correction_corner : corner.correction
    (corner.expand (corner.terminal (Trajectory.corner.state 1)) (Trajectory.corner.state 0)
      (Trajectory.corner.control 0)) (Trajectory.corner.control 0) = Problem.corner := by
  have hhessian : (corner.terminal (Trajectory.corner.state 1)).hessian = corner.stateCost := rfl
  have hgradient : (corner.terminal (Trajectory.corner.state 1)).gradient.entry = ![4] := by
    unfold terminal
    rw [Exact.mulVec_eq, stateCost_corner, state_corner, one_mulVec]
  have hzero : (Vec.zero 2 : Vec ℝ 2).entry = 0 := funext Vec.entry_zero
  rw [control_corner]
  unfold correction Problem.corner
  congr 1
  · refine Mat.ext_toMatrix ?_
    show _ = Problem.corner.hessianMatrix
    rw [controlHessian_expand, hhessian, stateCost_corner, controlCost_corner, controlMap_corner,
      Problem.hessianMatrix_corner]
    ext i j
    fin_cases i <;> fin_cases j <;> simp [Matrix.mul_apply] <;> norm_num
  · refine Vec.ext_entry (congrFun ?_)
    show _ = Problem.corner.linear.entry
    rw [controlGradient_expand, hgradient, controlMap_corner, hzero, mulVec_zero, zero_add,
      Problem.linear_corner]
    funext i
    fin_cases i <;> simp [mulVec, dotProduct]
  · exact Exact.sub_zero_eq _
  · exact Exact.sub_zero_eq _

end Plant

/-! ## A plant with one number as its state -/

/-- A cart that a force moves by its own strength. All costs are squares. -/
noncomputable def Plant.cart : Plant ℝ 1 1 where
  stateMap := Mat.ofInts ![![1]]
  controlMap := Mat.ofInts ![![1]]
  stateCost := Mat.ofInts ![![1]]
  controlCost := Mat.ofInts ![![1]]
  lower := Vec.ofInts ![-4]
  upper := Vec.ofInts ![4]

/-- The cart stays at five over two knots. -/
noncomputable def Trajectory.parked : Trajectory ℝ 1 1 2 where
  states := Vector.ofFn fun _ => Vec.ofInts ![5]
  controls := Vector.ofFn fun _ => Vec.zero 1

namespace Plant

theorem toMatrix_ofInts_one : (Mat.ofInts ![![1]]).toMatrix = 1 := by
  refine (Mat.toMatrix_ofInts _).trans ?_
  ext i j
  fin_cases i; fin_cases j; simp

theorem convex_cart : cart.Convex where
  stateCost := toMatrix_ofInts_one ▸ PosSemidef.one
  controlCost := toMatrix_ofInts_one ▸ PosDef.one

theorem lower_cart : cart.lower 0 = -4 := by exact_mod_cast Vec.entry_ofInts ![-4] 0

theorem upper_cart : cart.upper 0 = 4 := by exact_mod_cast Vec.entry_ofInts ![4] 0

theorem state_parked (i : Fin 3) : Trajectory.parked.state i = Vec.ofInts ![5] :=
  Vec.entry_ofFn _ i

theorem control_parked (i : Fin 2) : Trajectory.parked.control i = Vec.zero 1 :=
  Vec.entry_ofFn _ i

/-- The parts of a model of the cart are sums. -/
theorem expand_cart (V : ValueModel ℝ 1) (x u : Vec ℝ 1) :
    (cart.expand V x u).stateGradient.entry = x.entry + V.gradient.entry ∧
    (cart.expand V x u).controlGradient.entry = u.entry + V.gradient.entry ∧
    (cart.expand V x u).stateHessian.toMatrix = 1 + V.hessian.toMatrix ∧
    (cart.expand V x u).controlHessian.toMatrix = 1 + V.hessian.toMatrix ∧
    (cart.expand V x u).mixed.toMatrix = V.hessian.toMatrix := by
  have hstateMap : cart.stateMap.toMatrix = 1 := toMatrix_ofInts_one
  have hcontrolMap : cart.controlMap.toMatrix = 1 := toMatrix_ofInts_one
  have hstateCost : cart.stateCost.toMatrix = 1 := toMatrix_ofInts_one
  have hcontrolCost : cart.controlCost.toMatrix = 1 := toMatrix_ofInts_one
  rw [stateGradient_expand, controlGradient_expand, stateHessian_expand, controlHessian_expand,
    mixed_expand, hstateMap, hcontrolMap, hstateCost, hcontrolCost]
  simp only [transpose_one, one_mulVec, Matrix.one_mul, Matrix.mul_one, and_self]

end Plant

end ProjectedNewton
