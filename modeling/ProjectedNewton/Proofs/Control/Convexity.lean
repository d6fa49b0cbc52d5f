import ProjectedNewton.Proofs.Control.Gains

/-!
# Convexity along a backward pass

The gains of a pass may be wrong, and so may its corrections. The models stay convex all the same:
with any gain `K`, the Hessian in front of a knot is the cost of the knot and the Hessian behind it,
seen through `A + B K`. So the Hessian of the control, to which the strictly convex cost of the
control is added, is positive definite at every knot, and so are all its principal blocks. No
factorization of a pass fails.

Along a policy all models are convex (`Plant.posSemidef_valueAlong`), and a pass on its way has the
model along the policy that it has found so far.

* `Pass.Reaches.posSemidef`: every pass on the way is convex.
* `Memory.backward_ne_solve`: no solve of a pass fails.
* `Solver.convexity_of_backward` is the result for a pass.
-/

namespace ProjectedNewton

open Matrix

variable {n m T : ℕ}

namespace Pass

variable {plant : Plant ℝ n m} {s : Settings ℝ} {reference : Trajectory ℝ n m T}
  {memory : Memory ℝ m} {pass : Pass ℝ n m T} {i : ℕ}

/-- The Hessian of the control, if what follows the knot is convex. -/
theorem posDef_model (hplant : plant.Convex) (h : pass.value.hessian.toMatrix.PosSemidef)
    (reference : Trajectory ℝ n m T) (j : Fin T) :
    (pass.model plant reference j).controlHessian.toMatrix.PosDef :=
  Plant.posDef_controlHessian _ _ hplant h

/-- **Every pass on the way is convex.** -/
theorem Reaches.posSemidef (hplant : plant.Convex) {hi : i ≤ T}
    (h : Reaches plant s reference memory i hi pass) :
    pass.value.hessian.toMatrix.PosSemidef := by
  rw [h.behind.value]
  exact Plant.posSemidef_valueAlong hplant _

end Pass

/-- A pass does not fail in a factorization. -/
theorem Memory.backward_ne_solve {plant : Plant ℝ n m} {s : Settings ℝ}
    (hplant : plant.Convex) (hr : 0 ≤ s.regularization) (memory : Memory ℝ m)
    (reference : Trajectory ℝ n m T) (e : FactorizationError ℝ) :
    (memory.backward s plant reference).2.outcome ≠ .error (.solve e) := by
  intro herror
  obtain ⟨i, policy, -, hfails⟩ := Memory.backward_error herror
  exact Plant.not_failsAt_solve hplant hr hfails

/-! ## The pass of a solver -/

/-- **A pass never loses convexity.** At every knot that it reaches, the model of what follows is
convex and that of the control strictly so, and this is no matter of its gains: the models are
convex along every policy. So no factorization fails, although a pass may fail otherwise. -/
theorem Solver.convexity_of_backward (solver : Solver ℝ) {plant : Plant ℝ n m}
    (hplant : plant.Convex) (hdim : solver.dimension = m)
    (hr : 0 ≤ solver.settings.regularization) (reference : Trajectory ℝ n m T) :
    (∀ (memory : Memory ℝ m) (i : ℕ) (hi : i ≤ T) (pass : Pass ℝ n m T),
      Pass.Reaches plant solver.settings reference memory i hi pass →
        pass.value.hessian.toMatrix.PosSemidef ∧
        ∀ j, (pass.model plant reference j).controlHessian.toMatrix.PosDef) ∧
    (∀ policy : Policy ℝ n m T,
      (∀ i, (plant.valueAlong reference policy i).hessian.toMatrix.PosSemidef) ∧
      ∀ i, (plant.modelAlong reference policy i).controlHessian.toMatrix.PosDef) ∧
    ∃ solver' answer, solver.backward? plant reference = some (solver', answer) ∧
      ∀ e, answer.outcome ≠ .error (.solve e) := by
  refine ⟨?_, ?_, ?_⟩
  · intro memory i hi pass hreach
    have hvalue := hreach.posSemidef hplant
    exact ⟨hvalue, Pass.posDef_model hplant hvalue reference⟩
  · intro policy
    constructor
    · exact Plant.posSemidef_valueAlong hplant
    · exact fun _ => Plant.posDef_modelAlong hplant
  · obtain ⟨solver', answer, hpass⟩ : ∃ solver' answer,
        solver.backward? plant reference = some (solver', answer) := exists_backward? hdim
    obtain ⟨memory, rfl⟩ := exists_memory_of_backward? hpass
    exact ⟨solver', _, hpass, Memory.backward_ne_solve hplant hr memory reference⟩

/-- A pass along the parked cart gets to the first knot. -/
theorem Plant.exists_reaches_cart : ∃ pass, Pass.Reaches cart (Settings.quarter 1)
    Trajectory.parked (.fresh 1 none) 0 (Nat.zero_le 2) pass := by
  obtain ⟨policy, hpolicy⟩ :=
    Memory.exists_policy_of_single (s := Settings.quarter 1) convex_cart le_rfl rfl
      (.fresh 1 none) Trajectory.parked
  have hanswer := (Memory.fresh 1 none).backward_cases (Settings.quarter 1) cart Trajectory.parked
  generalize ((Memory.fresh 1 none).backward (Settings.quarter 1) cart Trajectory.parked).2 = answer
    at hpolicy hanswer
  cases hanswer with
  | passed reached => exact ⟨_, reached⟩
  | failed reached fails => cases hpolicy

/-- The models at both knots of the parked cart are convex for every policy, and so is what the pass
has in front of them. -/
theorem Solver.convexity_of_backward_cart :
    (∀ policy,
      (∀ i, (Plant.cart.valueAlong Trajectory.parked policy i).hessian.toMatrix.PosSemidef) ∧
      ∀ i, (Plant.cart.modelAlong Trajectory.parked policy i).controlHessian.toMatrix.PosDef) ∧
    (∃ pass, Pass.Reaches Plant.cart (Settings.quarter 1) Trajectory.parked (.fresh 1 none) 0
        (Nat.zero_le 2) pass ∧ pass.value.hessian.toMatrix.PosSemidef) ∧
    ∃ (solver : Solver ℝ) (answer : PassAnswer ℝ 1 1 2),
      Solver.backward? ⟨1, Settings.quarter 1, .fresh 1 none⟩ Plant.cart Trajectory.parked
        = some (solver, answer) ∧ ∀ e, answer.outcome ≠ .error (.solve e) := by
  obtain ⟨hreaches, hmodels, hpass⟩ := Solver.convexity_of_backward
    ⟨1, Settings.quarter 1, .fresh 1 none⟩ Plant.convex_cart rfl le_rfl Trajectory.parked
  obtain ⟨pass, hpassed⟩ := Plant.exists_reaches_cart
  exact ⟨hmodels, ⟨pass, hpassed, (hreaches _ _ _ _ hpassed).1⟩, hpass⟩

end ProjectedNewton
