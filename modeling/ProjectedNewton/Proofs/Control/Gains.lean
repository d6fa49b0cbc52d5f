import ProjectedNewton.Proofs.Control.Expansion
import ProjectedNewton.Proofs.Control.Pass
import ProjectedNewton.Proofs.Exact.Interior

/-!
# The gains of a backward pass

The gain at a knot is meant for the free controls: it multiplies their part of the mixed derivative
with minus the inverse of their part of the Hessian, and clamped controls have none. It is made with
the inverse that the solution of the knot brings along. This is the right one if the last iteration
of the solve has not changed the free controls. If it has, the inverse belongs to the free controls
of the iteration before: when their number is another one, the pass fails, and when it is the same,
the gain is wrong.

With convex costs nothing else can happen to a pass, since no factorization fails. If the solves are
given a single iteration, they have none before it, and the pass returns a policy.

* `KnotModel.IsGain` says what the gain of the free controls is.
* `Solution.gain?_of_settled`: a solution that has settled has this gain.
* `Solver.gains_of_backward` is the result for all knots of a pass.
* `Plant.backward_corner` is a pass that fails for this reason.
* `Plant.solution_cart` is a pass over two knots in numbers: a knot that meets no limits
  (`Plant.Roomy`) takes the model behind it to the model in front.
-/

namespace ProjectedNewton

open Matrix

variable {n m T : ℕ}

/-! ## Spread rows -/

namespace Mat

variable {α : Type} [Scalar α] {rows : List (Fin m)} {A : Mat α rows.length n}

theorem spreadRows_of_not_mem {i : Fin m} (h : i ∉ rows) : spreadRows rows A i = Vec.zero n := by
  have hnone : rows.finIdxOf? i = none := List.finIdxOf?_eq_none_iff.mpr h
  unfold spreadRows
  rw [Vec.entry_ofFn, hnone]

theorem pickRows_spreadRows (h : rows.Nodup) : (spreadRows rows A).pickRows rows = A := by
  refine Vec.ext_entry ?_
  intro k
  unfold pickRows spreadRows
  rw [Vec.entry_ofFn, Vec.entry_ofFn, finIdxOf?_get h]

end Mat

/-! ## The gain at a knot -/

/-- `K` is the gain of the free controls, with the regularization `r`. -/
structure KnotModel.IsGain (model : KnotModel ℝ n m) (r : ℝ) (part : Partition m)
    (K : Mat ℝ m n) : Prop where
  clamped : ∀ i ∉ part.free, K i = Vec.zero n
  free : (K.pickRows part.free).toMatrix
    = -((model.controlHessian.toMatrix.submatrix part.free.get part.free.get + r • 1)⁻¹
        * (model.mixed.pickRows part.free).toMatrix)

namespace KnotModel

variable {model : KnotModel ℝ n m} {K : Mat ℝ m n}

/-- Without clamped controls, the gain of the free controls is that of all. -/
theorem IsGain.mul_eq {part : Partition m} (h : model.IsGain 0 part K)
    (hfree : part.free = List.finRange m) (hmodel : model.controlHessian.toMatrix.PosDef) :
    model.controlHessian.toMatrix * K.toMatrix = -model.mixed.toMatrix := by
  have hdet : IsUnit model.controlHessian.toMatrix.det :=
    (isUnit_iff_isUnit_det _).mp hmodel.isUnit
  have hnodup : part.free.Nodup := by
    rw [hfree]
    exact List.nodup_finRange m
  have hall (i : Fin m) : i ∈ part.free := by
    rw [hfree]
    exact List.mem_finRange i
  -- All controls are listed, so that the listed rows are all rows in another order.
  obtain ⟨order, horder⟩ : ∃ order : Fin part.free.length ≃ Fin m, part.free.get = order :=
    ⟨hnodup.getEquivOfForallMemList part.free hall, rfl⟩
  have hgain := h.free
  rw [Exact.pickRows_eq, Exact.pickRows_eq, zero_smul, add_zero, horder,
    inv_submatrix_equiv, submatrix_mul_equiv] at hgain
  have hK : K.toMatrix = -(model.controlHessian.toMatrix⁻¹ * model.mixed.toMatrix) := by
    ext a b
    have hentry := congrFun (congrFun hgain (order.symm a)) b
    rwa [submatrix_apply, neg_apply, submatrix_apply, order.apply_symm_apply] at hentry
  rw [hK, Matrix.mul_neg, mul_nonsing_inv_cancel_left _ _ hdet]

end KnotModel

/-- There is no gain if the inverse does not fit the free controls. -/
theorem Solution.gain?_eq_none_iff {α : Type} [Scalar α] {sol : Solution α m} {mixed : Mat α m n} :
    sol.gain? mixed = none ↔
      sol.partition.free ≠ [] ∧ sol.inverse.size ≠ sol.partition.free.length := by
  unfold gain?
  dsimp only
  split
  · next hfree => simp [List.isEmpty_iff.mp hfree]
  · next hfree =>
    rw [List.isEmpty_iff] at hfree
    split
    · next hsize => simp [hsize]
    · next hsize => simp [hsize, hfree]

section Knot

variable {model : KnotModel ℝ n m} {s : Settings ℝ} {sol : Solution ℝ m} {p : Problem ℝ m}

/-- Without a free control, the gain is zero. -/
theorem Solution.gain?_of_full (h : sol.partition.free = []) (r : ℝ) :
    ∃ K, sol.gain? model.mixed = some K ∧ model.IsGain r sol.partition K := by
  refine ⟨Mat.zero m n, ?_, ?_, ?_⟩
  · unfold gain?
    rw [h]
    rfl
  · intro i _
    exact Vec.ext_entry fun j => (Mat.entry_ofFn _ i j).trans (Vec.entry_zero j).symm
  · rw [h]
    ext k
    exact k.elim0

/-- **An inverse for the free controls makes their gain.** -/
theorem Solution.gain?_of_inverseFor (hp : p.hessian = model.controlHessian)
    (hsymm : p.hessianMatrix.IsSymm) (hnodup : sol.partition.free.Nodup)
    (hfree : sol.partition.free ≠ []) (h : p.InverseFor s sol.partition sol.inverse) :
    ∃ K, sol.gain? model.mixed = some K ∧ model.IsGain s.regularization sol.partition K := by
  obtain ⟨x, part, inverse, iterations, status⟩ := sol
  dsimp only at hnodup hfree h
  obtain ⟨F, hF, rfl⟩ := h
  have hinverse : F.inverse.toMatrix
      = (model.controlHessian.toMatrix.submatrix part.free.get part.free.get
          + s.regularization • 1)⁻¹ := by
    rw [Factorization.inverse_eq (Problem.isSymm_freeHessian hsymm part) hF,
      Problem.toMatrix_shift]
    unfold Problem.freeHessian
    rw [Exact.block_eq, hp]
  refine ⟨Mat.spreadRows part.free (F.inverse.mul (model.mixed.pickRows part.free)).neg, ?_, ?_, ?_⟩
  · unfold gain?
    dsimp only
    rw [if_neg (by rwa [List.isEmpty_iff]), dif_pos rfl]
  · intro i hi
    exact Mat.spreadRows_of_not_mem hi
  · dsimp only
    rw [Mat.pickRows_spreadRows hnodup, Mat.toMatrix_neg, Mat.toMatrix_mul, hinverse]

/-- **A solution that has settled has the gain of its free controls.** -/
theorem Solution.gain?_of_settled {start : Vec ℝ m} (hp : p.hessian = model.controlHessian)
    (hsymm : p.hessianMatrix.IsSymm) (hm : s.maxIterations ≠ 0)
    (h : Ending (Workspace.fresh m) s p start sol) (hsettled : p.Settled s start sol) :
    ∃ K, sol.gain? model.mixed = some K ∧ model.IsGain s.regularization sol.partition K := by
  by_cases hfree : sol.partition.free = []
  · exact gain?_of_full hfree s.regularization
  · obtain ⟨x, hx⟩ := h.exists_split
    have hnodup : sol.partition.free.Nodup := by
      rw [hx]
      exact (p.isSplit_split x).nodup_free
    exact gain?_of_inverseFor hp hsymm hnodup hfree (h.inverseFor_of_settled hm hsettled hfree)

end Knot

/-! ## Convex costs -/

namespace Plant

variable {plant : Plant ℝ n m} {s : Settings ℝ} {reference : Trajectory ℝ n m T}
  {policy : Policy ℝ n m T} {i : Fin T}

/-- **All models are convex**, whatever the policy. -/
theorem posSemidef_valueAlong (hplant : plant.Convex) (i : Fin (T + 1)) :
    (plant.valueAlong reference policy i).hessian.toMatrix.PosSemidef := by
  induction i using Fin.reverseInduction with
  | last =>
    rw [valueAlong_last]
    exact hplant.stateCost
  | cast i ih =>
    rw [valueAlong_castSucc]
    exact posSemidef_backup _ _ hplant ih _ _

theorem posDef_modelAlong (hplant : plant.Convex) :
    (plant.modelAlong reference policy i).controlHessian.toMatrix.PosDef :=
  posDef_controlHessian (reference.state i.castSucc) (reference.control i) hplant
    (posSemidef_valueAlong hplant i.succ)

theorem posDef_problemAlong (hplant : plant.Convex) :
    (plant.problemAlong reference policy i).hessianMatrix.PosDef :=
  posDef_modelAlong hplant

/-- **No solve fails.** -/
theorem exists_solveAlong (hplant : plant.Convex) (hr : 0 ≤ s.regularization) :
    ∃ sol, plant.solveAlong s reference policy i = .ok sol :=
  Problem.exists_solution_of_posDef
    ((posDef_problemAlong hplant).add_posSemidef (PosSemidef.one.smul hr)) _

/-- **No pass fails in a solve.** -/
theorem not_failsAt_solve (hplant : plant.Convex) (hr : 0 ≤ s.regularization)
    {e : FactorizationError ℝ} : ¬plant.FailsAt s reference policy i (.solve e) := by
  intro hfails
  cases hfails with
  | solve breaks =>
    obtain ⟨sol, hsol⟩ : ∃ sol, plant.solveAlong s reference policy i = .ok sol :=
      exists_solveAlong hplant hr
    cases breaks.symm.trans hsol

/-- The last iteration of the solve at a knot has not changed the free controls. -/
def SettledAt (plant : Plant ℝ n m) (s : Settings ℝ) (reference : Trajectory ℝ n m T)
    (policy : Policy ℝ n m T) (i : Fin T) (sol : Solution ℝ m) : Prop :=
  (plant.problemAlong reference policy i).Settled s (policy.warmStart i.succ) sol

/-- **A knot that has settled has the gain of its free controls.** -/
theorem gain?_of_settledAt (hplant : plant.Convex) (hm : s.maxIterations ≠ 0)
    {sol : Solution ℝ m} (h : plant.solveAlong s reference policy i = .ok sol)
    (hsettled : plant.SettledAt s reference policy i sol) :
    ∃ K, sol.gain? (plant.modelAlong reference policy i).mixed = some K ∧
      (plant.modelAlong reference policy i).IsGain s.regularization sol.partition K :=
  Solution.gain?_of_settled (p := plant.problemAlong reference policy i) rfl
    (posDef_problemAlong hplant).isHermitian hm (ending_of_outcome h) hsettled

/-- A knot whose solution has no gain has not settled. -/
theorem not_settledAt_of_gainless (hplant : plant.Convex) (hm : s.maxIterations ≠ 0)
    {sol : Solution ℝ m} (h : plant.solveAlong s reference policy i = .ok sol)
    (hgainless : sol.gain? (plant.modelAlong reference policy i).mixed = none) :
    ¬plant.SettledAt s reference policy i sol := by
  intro hsettled
  obtain ⟨K, hK, -⟩ := gain?_of_settledAt hplant hm h hsettled
  cases hgainless.symm.trans hK

/-- A single iteration has none before it. -/
theorem settledAt_of_single (hm : s.maxIterations = 1) {sol : Solution ℝ m}
    (h : plant.solveAlong s reference policy i = .ok sol) :
    plant.SettledAt s reference policy i sol := by
  intro k y hcount
  have hle : sol.iterations ≤ s.maxIterations := (ending_of_outcome h).iterations_le
  omega

/-- What the answer of a pass says about the gains. -/
structure GainsAnswered (plant : Plant ℝ n m) (s : Settings ℝ) (reference : Trajectory ℝ n m T)
    (answer : PassAnswer ℝ n m T) : Prop where
  /-- A pass only fails at a knot where the last iteration has changed the number of free controls,
  so that the inverse does not fit them. -/
  failed {e : PassError ℝ} : answer.outcome = .error e → e = .inverseSize ∧
    ∃ (i : Fin T) (policy : Policy ℝ n m T) (sol : Solution ℝ m),
      (∀ j, i < j → plant.Solved s reference policy j) ∧
      plant.solveAlong s reference policy i = .ok sol ∧
      ¬plant.SettledAt s reference policy i sol ∧
      sol.inverse.size ≠ sol.partition.free.length
  /-- The corrections are the solutions. Where the last iteration has not changed the free controls,
  or where there are none, the gains are those of the free controls. -/
  passed {policy : Policy ℝ n m T} : answer.outcome = .ok policy → ∀ i, ∃ sol,
    plant.solveAlong s reference policy i = .ok sol ∧ policy.correction i = sol.x ∧
    (plant.SettledAt s reference policy i sol ∨ sol.partition.free = [] →
      (plant.modelAlong reference policy i).IsGain s.regularization sol.partition (policy.gain i))

end Plant

/-- **The gains of a pass belong to the free controls** at every knot whose solve has not changed
them in its last iteration, and without such a change the pass does not fail. -/
theorem Solver.gains_of_backward {solver : Solver ℝ} {plant : Plant ℝ n m}
    (hplant : plant.Convex) (hdim : solver.dimension = m)
    (hr : 0 ≤ solver.settings.regularization) (hm : solver.settings.maxIterations ≠ 0)
    (reference : Trajectory ℝ n m T) :
    ∃ solver' answer, solver.backward? plant reference = some (solver', answer) ∧
      plant.GainsAnswered solver.settings reference answer := by
  obtain ⟨solver', answer, hpass⟩ : ∃ solver' answer,
      solver.backward? plant reference = some (solver', answer) := exists_backward? hdim
  obtain ⟨memory, rfl⟩ := exists_memory_of_backward? hpass
  refine ⟨solver', _, hpass, ?_, ?_⟩
  · intro e he
    obtain ⟨i, policy, hbehind, hfails⟩ := Memory.backward_error he
    cases hfails with
    | solve breaks => exact absurd (.solve breaks) (Plant.not_failsAt_solve hplant hr)
    | inverseSize outcome gainless =>
      exact ⟨rfl, i, policy, _, hbehind, outcome,
        Plant.not_settledAt_of_gainless hplant hm outcome gainless,
        (Solution.gain?_eq_none_iff.mp gainless).2⟩
  · intro policy hpolicy i
    obtain ⟨sol, houtcome, hcorrection, hgain⟩ := (Memory.backward_ok hpolicy).1 i
    refine ⟨sol, houtcome, hcorrection, ?_⟩
    rintro (hsettled | hfree)
    · obtain ⟨K, hK, hisGain⟩ := Plant.gain?_of_settledAt hplant hm houtcome hsettled
      cases hgain.symm.trans hK
      exact hisGain
    · obtain ⟨K, hK, hisGain⟩ := Solution.gain?_of_full hfree solver.settings.regularization
      cases hgain.symm.trans hK
      exact hisGain

/-! ## Passes with a single iteration -/

/-- **With a single iteration at each knot, a pass returns a policy.** -/
theorem Memory.exists_policy_of_single {plant : Plant ℝ n m} {s : Settings ℝ}
    (hplant : plant.Convex) (hr : 0 ≤ s.regularization) (hm : s.maxIterations = 1)
    (memory : Memory ℝ m) (reference : Trajectory ℝ n m T) :
    ∃ policy, (memory.backward s plant reference).2.outcome = .ok policy := by
  cases houtcome : (memory.backward s plant reference).2.outcome with
  | ok policy => exact ⟨policy, rfl⟩
  | error e =>
    obtain ⟨i, policy, -, hfails⟩ := Memory.backward_error houtcome
    cases hfails with
    | solve breaks => exact absurd (.solve breaks) (Plant.not_failsAt_solve hplant hr)
    | inverseSize outcome gainless =>
      exact absurd (Plant.settledAt_of_single hm outcome)
        (Plant.not_settledAt_of_gainless hplant (by omega) outcome gainless)

theorem Solver.exists_policy_of_single {solver : Solver ℝ} {plant : Plant ℝ n m}
    (hplant : plant.Convex) (hdim : solver.dimension = m)
    (hr : 0 ≤ solver.settings.regularization) (hm : solver.settings.maxIterations = 1)
    (reference : Trajectory ℝ n m T) :
    ∃ solver' answer policy, solver.backward? plant reference = some (solver', answer) ∧
      answer.outcome = .ok policy ∧ ∀ i, plant.Solved solver.settings reference policy i := by
  obtain ⟨solver', answer, hpass⟩ : ∃ solver' answer,
      solver.backward? plant reference = some (solver', answer) := exists_backward? hdim
  obtain ⟨memory, rfl⟩ := exists_memory_of_backward? hpass
  obtain ⟨policy, hpolicy⟩ := memory.exists_policy_of_single hplant hr hm reference
  exact ⟨solver', _, policy, hpass, hpolicy, (Memory.backward_ok hpolicy).1⟩

namespace Plant

section Corner

variable {policy : Policy ℝ 1 2 1}

/-- Whatever the policy, the only knot has the corner as its problem. -/
theorem problemAlong_corner : corner.problemAlong Trajectory.corner policy 0 = Problem.corner := by
  unfold problemAlong modelAlong
  exact correction_corner

theorem solveAlong_corner {k : ℕ} :
    corner.solveAlong (Settings.quarter k) Trajectory.corner policy 0
      = Problem.corner.outcome (Settings.quarter k) (Vec.zero 2) k := by
  unfold solveAlong
  rw [problemAlong_corner]
  rfl

/-- A single iteration leaves the first control clamped. -/
theorem free_of_solveAlong_corner {sol : Solution ℝ 2}
    (h : corner.solveAlong (Settings.quarter 1) Trajectory.corner policy 0 = .ok sol) :
    sol.partition.free = [1] := by
  obtain ⟨F, -, hcorner⟩ := Problem.outcome_corner (m := 1)
  rw [solveAlong_corner, hcorner] at h
  cases h
  exact Problem.free_corner

end Corner

section Cart

variable {policy : Policy ℝ 1 1 2} {i : Fin 2}

/-- How the cost that follows a knot changes with the state. -/
noncomputable def slope (policy : Policy ℝ 1 1 2) (i : Fin 3) : ℝ :=
  (cart.valueAlong Trajectory.parked policy i).gradient (Fin.last 0)

/-- How this change itself changes. -/
noncomputable def curvature (policy : Policy ℝ 1 1 2) (i : Fin 3) : ℝ :=
  (cart.valueAlong Trajectory.parked policy i).hessian (Fin.last 0) (Fin.last 0)

/-- The model at a knot, in numbers. -/
theorem modelAlong_cart (policy : Policy ℝ 1 1 2) (i : Fin 2) :
    (cart.modelAlong Trajectory.parked policy i).stateGradient 0 = 5 + slope policy i.succ ∧
    (cart.modelAlong Trajectory.parked policy i).controlGradient 0 = slope policy i.succ ∧
    (cart.modelAlong Trajectory.parked policy i).stateHessian 0 0 = 1 + curvature policy i.succ ∧
    (cart.modelAlong Trajectory.parked policy i).controlHessian 0 0
      = 1 + curvature policy i.succ ∧
    (cart.modelAlong Trajectory.parked policy i).mixed 0 0 = curvature policy i.succ := by
  obtain ⟨hstate, hcontrol, hstateHessian, hcontrolHessian, hmixed⟩ :=
    expand_cart (cart.valueAlong Trajectory.parked policy i.succ)
      (Trajectory.parked.state i.castSucc) (Trajectory.parked.control i)
  refine ⟨?_, ?_, congrFun (congrFun hstateHessian 0) 0, congrFun (congrFun hcontrolHessian 0) 0,
    congrFun (congrFun hmixed 0) 0⟩
  · refine (congrFun hstate 0).trans ?_
    rw [state_parked, Pi.add_apply, Vec.entry_ofInts]
    norm_num [slope]
  · refine (congrFun hcontrol 0).trans ?_
    rw [control_parked, Pi.add_apply, Vec.entry_zero, zero_add]
    rfl

/-- The limits do not depend on the knot, as the control of the reference is zero. -/
theorem limits_problemAlong_cart (policy : Policy ℝ 1 1 2) (i : Fin 2) :
    (cart.problemAlong Trajectory.parked policy i).lower 0 = -4 ∧
      (cart.problemAlong Trajectory.parked policy i).upper 0 = 4 := by
  constructor
  · show (cart.lower.sub (Trajectory.parked.control i)) 0 = -4
    rw [control_parked, Exact.sub_zero_eq, lower_cart]
  · show (cart.upper.sub (Trajectory.parked.control i)) 0 = 4
    rw [control_parked, Exact.sub_zero_eq, upper_cart]

theorem gradient_problemAlong_cart (policy : Policy ℝ 1 1 2) (i : Fin 2) (z : Vec ℝ 1) :
    (cart.problemAlong Trajectory.parked policy i).gradient z 0
      = (1 + curvature policy i.succ) * z 0 + slope policy i.succ := by
  obtain ⟨-, hlinear, -, hhessian, -⟩ := modelAlong_cart policy i
  rw [← hhessian, ← hlinear]
  refine (congrFun (Problem.gradient_eq _ z) 0).trans ?_
  simp [mulVec, dotProduct]
  rfl

theorem curvature_pos (policy : Policy ℝ 1 1 2) (i : Fin 2) : 0 < 1 + curvature policy i.succ := by
  obtain ⟨-, -, -, hhessian, -⟩ := modelAlong_cart policy i
  rw [← hhessian]
  exact (posDef_modelAlong convex_cart).diag_pos (i := 0)

/-- The solve at a knot starts within the limits and is drawn to a point within them. -/
structure Roomy (policy : Policy ℝ 1 1 2) (i : Fin 2) : Prop where
  start : |policy.warmStart i.succ 0| < 4
  target : |slope policy i.succ| ≤ 4 * (1 + curvature policy i.succ)

namespace Roomy

variable (h : Roomy policy i)
include h

/-- A roomy knot meets no limits. -/
theorem interior : (cart.problemAlong Trajectory.parked policy i).Interior (Settings.quarter 1)
    (policy.warmStart i.succ) := by
  obtain ⟨hlower, hupper⟩ := limits_problemAlong_cart policy i
  have hpos := curvature_pos policy i
  obtain ⟨z, hz⟩ : ∃ z : Vec ℝ 1, z 0 = -(slope policy i.succ / (1 + curvature policy i.succ)) :=
    ⟨#v[_], rfl⟩
  have hbound : |z 0| ≤ 4 := by
    rw [hz, abs_neg, abs_div, abs_of_pos hpos, div_le_iff₀ hpos]
    exact h.target
  refine Problem.interior_of_inside (z := z) (posDef_problemAlong convex_cart) rfl rfl ?_ ?_ ?_
  · intro j
    obtain rfl := Fin.fin_one_eq_zero j
    rw [hlower, hupper]
    exact abs_lt.mp h.start
  · funext j
    obtain rfl := Fin.fin_one_eq_zero j
    rw [gradient_problemAlong_cart, hz, mul_neg, mul_div_cancel₀ _ hpos.ne', neg_add_cancel]
    rfl
  · intro j
    obtain rfl := Fin.fin_one_eq_zero j
    rw [hlower, hupper]
    exact abs_le.mp hbound

/-- All its controls are free. -/
theorem free_eq {sol : Solution ℝ 1}
    (hsol : cart.solveAlong (Settings.quarter 1) Trajectory.parked policy i = .ok sol) :
    sol.partition.free = [0] :=
  h.interior.free_of_ending Settings.sharp_quarter (ending_of_outcome hsol)

variable (hsolved : cart.Solved (Settings.quarter 1) Trajectory.parked policy i)
include hsolved

/-- **Correction and gain at a roomy knot.** -/
theorem solution :
    (1 + curvature policy i.succ) * policy.correction i 0 = -slope policy i.succ ∧
    (1 + curvature policy i.succ) * policy.gain i 0 0 = -curvature policy i.succ := by
  obtain ⟨sol, houtcome, hcorrection, hgain⟩ := hsolved
  constructor
  · have hgradient := h.interior.gradient_eq_zero (posDef_problemAlong convex_cart)
      Settings.sharp_quarter (ending_of_outcome houtcome)
    have hentry := congrFun hgradient 0
    rw [gradient_problemAlong_cart, ← hcorrection] at hentry
    exact eq_neg_of_add_eq_zero_left hentry
  · obtain ⟨K, hK, hisGain⟩ := gain?_of_settledAt convex_cart one_ne_zero houtcome
      (settledAt_of_single rfl houtcome)
    cases hgain.symm.trans hK
    obtain ⟨-, -, -, hhessian, hmixed⟩ := modelAlong_cart policy i
    rw [← hhessian, ← hmixed]
    have hproduct := hisGain.mul_eq (h.free_eq houtcome) (posDef_modelAlong convex_cart)
    simpa [Matrix.mul_apply] using congrFun (congrFun hproduct 0) 0

/-- The model in front of it. -/
theorem value : slope policy i.castSucc
      = 5 + slope policy i.succ + curvature policy i.succ * policy.correction i 0 ∧
    curvature policy i.castSucc
      = 1 + curvature policy i.succ + curvature policy i.succ * policy.gain i 0 0 := by
  obtain ⟨hcorrection, hgain⟩ := h.solution hsolved
  obtain ⟨hstate, hcontrol, hstateHessian, hcontrolHessian, hmixed⟩ := modelAlong_cart policy i
  obtain ⟨hslope, hcurvature⟩ :=
    KnotModel.backup_single (cart.modelAlong Trajectory.parked policy i) (policy.correction i)
      (policy.gain i)
  rw [← valueAlong_castSucc, hstate, hcontrolHessian, hcontrol, hmixed] at hslope
  rw [← valueAlong_castSucc, hstateHessian, hcontrolHessian, hmixed] at hcurvature
  constructor
  · refine hslope.trans ?_
    rw [mul_assoc (policy.gain i 0 0), hcorrection]
    ring
  · refine hcurvature.trans ?_
    rw [mul_assoc (policy.gain i 0 0), hgain]
    ring

end Roomy

theorem slope_last (policy : Policy ℝ 1 1 2) : slope policy 2 = 5 ∧ curvature policy 2 = 1 := by
  have hcost : cart.stateCost.toMatrix = 1 := toMatrix_ofInts_one
  have hlast : cart.valueAlong Trajectory.parked policy 2
      = cart.terminal (Trajectory.parked.state 2) := valueAlong_last
  unfold slope curvature
  rw [hlast]
  constructor
  · have hgradient : (cart.terminal (Trajectory.parked.state 2)).gradient.entry
        = (Vec.ofInts ![5] : Vec ℝ 1).entry := by
      unfold terminal
      rw [Exact.mulVec_eq, hcost, one_mulVec, state_parked]
    refine (congrFun hgradient 0).trans ?_
    exact_mod_cast Vec.entry_ofInts ![5] 0
  · exact (congrFun (congrFun hcost 0) 0).trans (one_apply_eq 0)

/-- The last knot starts at zero and is drawn to `-5 / 2`. -/
theorem roomy_last (policy : Policy ℝ 1 1 2) : Roomy policy 1 := by
  obtain ⟨hslope, hcurvature⟩ := slope_last policy
  constructor
  · have hstart : policy.warmStart 2 = Vec.zero 1 := policy.warmStart_last
    show |policy.warmStart 2 0| < 4
    rw [hstart, Vec.entry_zero, abs_zero]
    exact four_pos
  · show |slope policy 2| ≤ 4 * (1 + curvature policy 2)
    rw [hslope, hcurvature]
    norm_num

theorem solution_last (h : cart.Solved (Settings.quarter 1) Trajectory.parked policy 1) :
    policy.correction 1 0 = -5 / 2 ∧ policy.gain 1 0 0 = -1 / 2 ∧
      slope policy 1 = 15 / 2 ∧ curvature policy 1 = 3 / 2 := by
  obtain ⟨hslope, hcurvature⟩ := slope_last policy
  obtain ⟨hcorrection, hgain⟩ := (roomy_last policy).solution h
  obtain ⟨hslope', hcurvature'⟩ := (roomy_last policy).value h
  change (1 + curvature policy 2) * policy.correction 1 0 = -slope policy 2 at hcorrection
  change (1 + curvature policy 2) * policy.gain 1 0 0 = -curvature policy 2 at hgain
  change slope policy 1 = 5 + slope policy 2 + curvature policy 2 * policy.correction 1 0 at hslope'
  change curvature policy 1
    = 1 + curvature policy 2 + curvature policy 2 * policy.gain 1 0 0 at hcurvature'
  rw [hslope, hcurvature] at hcorrection hslope'
  rw [hcurvature] at hgain hcurvature'
  refine ⟨?_, ?_, ?_, ?_⟩ <;> linarith

/-- The first knot starts from there and is drawn to `-3`. -/
theorem roomy_first (h : cart.Solved (Settings.quarter 1) Trajectory.parked policy 1) :
    Roomy policy 0 := by
  obtain ⟨hcorrection, -, hslope, hcurvature⟩ := solution_last h
  constructor
  · have hstart : policy.warmStart 1 = policy.correction 1 := policy.warmStart_castSucc 1
    show |policy.warmStart 1 0| < 4
    rw [hstart, hcorrection]
    norm_num [abs_lt]
  · show |slope policy 1| ≤ 4 * (1 + curvature policy 1)
    rw [hslope, hcurvature]
    norm_num [abs_le]

/-- No knot of the cart meets a limit, once those behind it are solved. -/
theorem roomy_of_solved
    (h : ∀ j, i < j → cart.Solved (Settings.quarter 1) Trajectory.parked policy j) :
    Roomy policy i := by
  fin_cases i
  · exact roomy_first (h 1 Fin.zero_lt_one)
  · exact roomy_last policy

/-- **The policy of a pass along the parked cart**, from the last knot to the first. -/
theorem solution_cart (h : ∀ i, cart.Solved (Settings.quarter 1) Trajectory.parked policy i) :
    policy.correction 1 0 = -5 / 2 ∧ policy.gain 1 0 0 = -1 / 2 ∧
      policy.correction 0 0 = -3 ∧ policy.gain 0 0 0 = -3 / 5 := by
  obtain ⟨hcorrection, hgain, hslope, hcurvature⟩ := solution_last (h 1)
  obtain ⟨hcorrection', hgain'⟩ := (roomy_first (h 1)).solution (h 0)
  change (1 + curvature policy 1) * policy.correction 0 0 = -slope policy 1 at hcorrection'
  change (1 + curvature policy 1) * policy.gain 0 0 0 = -curvature policy 1 at hgain'
  rw [hslope, hcurvature] at hcorrection'
  rw [hcurvature] at hgain'
  exact ⟨hcorrection, hgain, by linarith, by linarith⟩

end Cart

end Plant

/-- **A pass along the parked cart** returns this policy. -/
theorem Solver.exists_policy_cart : ∃ (solver : Solver ℝ) (answer : PassAnswer ℝ 1 1 2)
    (policy : Policy ℝ 1 1 2),
    Solver.backward? ⟨1, Settings.quarter 1, .fresh 1 none⟩ Plant.cart Trajectory.parked
      = some (solver, answer) ∧ answer.outcome = .ok policy ∧
    ∀ i, Plant.cart.Solved (Settings.quarter 1) Trajectory.parked policy i :=
  exists_policy_of_single Plant.convex_cart rfl le_rfl rfl Trajectory.parked

/-- With one iteration, the gain at the corner is that of the second control. Along the parked cart,
the gain of the first knot comes from what the second one has left behind. -/
theorem Solver.gains_of_backward_corner :
    (∃ (solver' : Solver ℝ) (answer : PassAnswer ℝ 1 2 1) (policy : Policy ℝ 1 2 1)
      (sol : Solution ℝ 2),
      Solver.backward? ⟨2, Settings.quarter 1, .fresh 2 none⟩ Plant.corner Trajectory.corner
        = some (solver', answer) ∧
      answer.outcome = .ok policy ∧ policy.correction 0 = sol.x ∧ sol.partition.free = [1] ∧
      (Plant.corner.modelAlong Trajectory.corner policy 0).IsGain 0 sol.partition
        (policy.gain 0)) ∧
    ∃ (solver' : Solver ℝ) (answer : PassAnswer ℝ 1 1 2) (policy : Policy ℝ 1 1 2),
      Solver.backward? ⟨1, Settings.quarter 1, .fresh 1 none⟩ Plant.cart Trajectory.parked
        = some (solver', answer) ∧
      answer.outcome = .ok policy ∧ policy.gain 1 0 0 = -1 / 2 ∧ policy.gain 0 0 0 = -3 / 5 ∧
      ∀ i, ∃ sol : Solution ℝ 1, policy.correction i = sol.x ∧ sol.partition.free = [0] ∧
        (Plant.cart.modelAlong Trajectory.parked policy i).IsGain 0 sol.partition
          (policy.gain i) := by
  constructor
  · obtain ⟨solver', answer, policy, hpass, houtcome, -⟩ :=
      @exists_policy_of_single 1 2 1 ⟨2, Settings.quarter 1, .fresh 2 none⟩ Plant.corner
        Plant.convex_corner rfl le_rfl rfl Trajectory.corner
    obtain ⟨_, _, hpass', hgains⟩ : ∃ solver' answer, Solver.backward?
        ⟨2, Settings.quarter 1, .fresh 2 none⟩ Plant.corner Trajectory.corner
          = some (solver', answer) ∧
        Plant.corner.GainsAnswered (Settings.quarter 1) Trajectory.corner answer :=
      Solver.gains_of_backward Plant.convex_corner rfl le_rfl one_ne_zero Trajectory.corner
    cases hpass.symm.trans hpass'
    obtain ⟨sol, hsol, hcorrection, hgain⟩ := hgains.passed houtcome 0
    exact ⟨solver', answer, policy, sol, hpass, houtcome, hcorrection,
      Plant.free_of_solveAlong_corner hsol, hgain (Or.inl (Plant.settledAt_of_single rfl hsol))⟩
  · obtain ⟨solver', answer, policy, hpass, houtcome, hsolved⟩ := exists_policy_cart
    obtain ⟨_, _, hpass', hgains⟩ : ∃ solver' answer, Solver.backward?
        ⟨1, Settings.quarter 1, .fresh 1 none⟩ Plant.cart Trajectory.parked
          = some (solver', answer) ∧
        Plant.cart.GainsAnswered (Settings.quarter 1) Trajectory.parked answer :=
      Solver.gains_of_backward Plant.convex_cart rfl le_rfl one_ne_zero Trajectory.parked
    cases hpass.symm.trans hpass'
    obtain ⟨-, hlast, -, hfirst⟩ := Plant.solution_cart hsolved
    refine ⟨solver', answer, policy, hpass, houtcome, hlast, hfirst, ?_⟩
    intro i
    obtain ⟨sol, hsol, hcorrection, hgain⟩ := hgains.passed houtcome i
    have hroomy : Plant.Roomy policy i := Plant.roomy_of_solved fun j _ => hsolved j
    exact ⟨sol, hcorrection, hroomy.free_eq hsol,
      hgain (Or.inl (Plant.settledAt_of_single rfl hsol))⟩

/-! ## A pass that fails -/

/-- **A pass that fails**, although the costs are convex and the limits in order. With two
iterations, the last one frees the first control. -/
theorem Plant.backward_corner : Plant.corner.Convex ∧
    (∀ i, Plant.corner.lower i ≤ Plant.corner.upper i) ∧ (Settings.quarter 2).Admissible ∧
    1 ≤ (Settings.quarter 2).maxIterations ∧
    ∃ (solver' : Solver ℝ) (answer : PassAnswer ℝ 1 2 1),
      Solver.backward? ⟨2, Settings.quarter 2, .fresh 2 none⟩ Plant.corner Trajectory.corner
        = some (solver', answer) ∧ answer.outcome = .error .inverseSize := by
  refine ⟨convex_corner, Problem.lower_le_upper_corner, Settings.admissible_quarter 2, one_le_two,
    ?_⟩
  obtain ⟨W, hW, hfree, hsize⟩ := Problem.outcome_corner_two
  obtain ⟨solver', answer, hpass⟩ : ∃ solver' answer, Solver.backward?
      ⟨2, Settings.quarter 2, .fresh 2 none⟩ Plant.corner Trajectory.corner
        = some (solver', answer) := Solver.exists_backward? rfl
  obtain ⟨memory, rfl⟩ := Solver.exists_memory_of_backward? hpass
  have hgainless (mixed : Mat ℝ 2 1) : W.gain? mixed = none := by
    rw [Solution.gain?_eq_none_iff, hfree, hsize]
    exact ⟨List.cons_ne_nil _ _, OfNat.one_ne_ofNat 2⟩
  refine ⟨solver', _, hpass, ?_⟩
  cases houtcome :
    (memory.backward (Settings.quarter 2) Plant.corner Trajectory.corner).2.outcome with
  | ok policy =>
    obtain ⟨sol, hsol, -, hgain⟩ := (Memory.backward_ok houtcome).1 0
    rw [solveAlong_corner, hW] at hsol
    cases hsol
    cases (hgainless _).symm.trans hgain
  | error e =>
    obtain ⟨i, policy, -, hfails⟩ := Memory.backward_error houtcome
    obtain rfl := Fin.fin_one_eq_zero i
    cases hfails with
    | solve breaks =>
      rw [solveAlong_corner, hW] at breaks
      cases breaks
    | inverseSize outcome gainless => rfl

end ProjectedNewton
