import ProjectedNewton.Proofs.Control.Convexity

/-!
# Stationary policies

If the solves of a pass meet no limits, then each of them ends where the gradient is zero and brings
along the inverse of the whole Hessian. So correction and gain make the model at every knot
stationary in the control, whatever the state.

* `KnotModel.Stationary` says what this means for the model of a knot, and
  `KnotModel.Stationary.value_eq` completes the square.
* `Pass.exists_stationary` is the solve of one knot, `Pass.Reaches.stationary` the way over all.
* `Memory.exists_stationary`: a pass that meets no limits does not fail, and its policy is
  stationary.
-/

namespace ProjectedNewton

open Matrix

variable {n m T : ℕ}

/-! ## The model at a knot -/

namespace KnotModel

/-- The model is stationary in the control, if that follows the correction `k` and the gain `K`.
This holds at every state. -/
structure Stationary (model : KnotModel ℝ n m) (k : Vec ℝ m) (K : Mat ℝ m n) : Prop where
  correction : model.controlHessian.toMatrix *ᵥ k.entry = -model.controlGradient.entry
  gain : model.controlHessian.toMatrix * K.toMatrix = -model.mixed.toMatrix

variable {model : KnotModel ℝ n m} {k : Vec ℝ m} {K : Mat ℝ m n}

/-- How the model changes with the control. -/
theorem value_add (hmodel : model.controlHessian.toMatrix.IsSymm) (δ : Fin n → ℝ)
    (v w : Fin m → ℝ) : model.value δ (v + w) = model.value δ v
      + (model.controlHessian.toMatrix *ᵥ v + model.controlGradient.entry
          + model.mixed.toMatrix *ᵥ δ) ⬝ᵥ w
      + 1 / 2 * (w ⬝ᵥ model.controlHessian.toMatrix *ᵥ w) := by
  have hmixed : w ⬝ᵥ model.mixed.toMatrix *ᵥ δ = model.mixed.toMatrix *ᵥ δ ⬝ᵥ w :=
    dotProduct_comm _ _
  unfold KnotModel.value
  rw [dotProduct_mulVec_add hmodel, Exact.half_eq]
  simp only [add_dotProduct, dotProduct_add]
  rw [hmixed]
  ring

/-- **The square is complete.** What the model says about a control is what the model in front of
the knot says, the objective of the correction and the curvature of the departure from both. -/
theorem Stationary.value_eq (h : model.Stationary k K)
    (hmodel : model.controlHessian.toMatrix.IsSymm) (δ : Fin n → ℝ) (v : Fin m → ℝ) :
    model.value δ v = (model.backup k K).value δ
      + quadraticValue model.controlHessian model.controlGradient k
      + 1 / 2 * ((v - (k.entry + K.toMatrix *ᵥ δ))
          ⬝ᵥ model.controlHessian.toMatrix *ᵥ (v - (k.entry + K.toMatrix *ᵥ δ))) := by
  -- The slope at the control of the policy, which is where the linear term goes.
  have hstationary : model.controlHessian.toMatrix *ᵥ (k.entry + K.toMatrix *ᵥ δ)
      + model.controlGradient.entry + model.mixed.toMatrix *ᵥ δ = 0 := by
    rw [mulVec_add, mulVec_mulVec, h.correction, h.gain, neg_mulVec]
    abel
  have hsplit : v = k.entry + K.toMatrix *ᵥ δ + (v - (k.entry + K.toMatrix *ᵥ δ)) :=
    (add_sub_cancel _ _).symm
  conv_lhs => rw [hsplit, value_add hmodel, hstationary, value_backup k K hmodel]
  rw [zero_dotProduct, add_zero]

end KnotModel

/-- From knot `i` on, the policy makes the models along the reference stationary. -/
def Plant.StationaryFrom (plant : Plant ℝ n m) (reference : Trajectory ℝ n m T) (i : ℕ)
    (policy : Policy ℝ n m T) : Prop :=
  ∀ j : Fin T, i ≤ j.val →
    (plant.modelAlong reference policy j).Stationary (policy.correction j) (policy.gain j)

/-! ## Passes that meet no limits -/

/-- A pass with this memory meets no limits: at every knot that it reaches, the run of the solver
has no clamped control, and the projection leaves its steps as they are. -/
def Plant.Undisturbed (plant : Plant ℝ n m) (s : Settings ℝ) (reference : Trajectory ℝ n m T)
    (memory : Memory ℝ m) : Prop :=
  ∀ (i : ℕ) (hi : i + 1 ≤ T) (pass : Pass ℝ n m T),
    Pass.Reaches plant s reference memory (i + 1) hi pass →
      (plant.correction (pass.model plant reference ⟨i, hi⟩)
        (reference.control ⟨i, hi⟩)).Interior s pass.warmStart

namespace Pass

variable {plant : Plant ℝ n m} {s : Settings ℝ} {reference : Trajectory ℝ n m T}
  {memory : Memory ℝ m} {pass : Pass ℝ n m T} {sol : Solution ℝ m} {i : ℕ}

/-- **A solve that meets no limits makes the model stationary** by its correction and its gain. -/
theorem exists_stationary (hplant : plant.Convex) (hs : s.Sharp)
    (hvalue : pass.value.hessian.toMatrix.PosSemidef) {j : Fin T}
    (hinterior : (plant.correction (pass.model plant reference j)
      (reference.control j)).Interior s pass.warmStart)
    (hsol : pass.solveAt plant s reference j = .ok sol) :
    ∃ K, sol.gain? (pass.model plant reference j).mixed = some K ∧
      (pass.model plant reference j).Stationary sol.x K := by
  have hmodel := posDef_model hplant hvalue reference j
  have hproblem : (plant.correction (pass.model plant reference j)
      (reference.control j)).hessianMatrix.PosDef := hmodel
  have hend := ending_of_outcome hsol
  have hgradient := hinterior.gradient_eq_zero hproblem hs hend
  obtain ⟨K, hK, hgain⟩ := Solution.gain?_of_settled rfl hproblem.isHermitian
    (Nat.one_le_iff_ne_zero.mp hs.maxIterations) hend (hinterior.settled hs hend)
  rw [hs.regularization] at hgain
  refine ⟨K, hK, ?_, hgain.mul_eq (hinterior.free_of_ending hs hend) hmodel⟩
  rw [Problem.gradient_eq] at hgradient
  exact eq_neg_of_add_eq_zero_left hgradient

/-- **Every pass on the way has made the models behind it stationary.** -/
theorem Reaches.stationary (hplant : plant.Convex) (hs : s.Sharp)
    (hfree : plant.Undisturbed s reference memory) {hi : i ≤ T}
    (h : Reaches plant s reference memory i hi pass) :
    plant.StationaryFrom reference i pass.policy := by
  induction h with
  | start =>
    intro j hj
    exact absurd j.isLt (Nat.not_lt.mpr hj)
  | @knot i hi pass next reached passed ih =>
    have hcase := knot_cases plant s reference ⟨i, hi⟩ pass
    rw [passed] at hcase
    cases hcase with
    | @passed sol K memory events outcome gain =>
      obtain ⟨K', hK', hstationary⟩ := exists_stationary hplant hs (reached.posSemidef hplant)
        (hfree i hi pass reached) outcome
      cases gain.symm.trans hK'
      -- The policy is changed at this knot only, and the models from here on with it.
      have hagree := Policy.agreeFrom_set pass.policy ⟨i, hi⟩ sol.x K
      intro j hj
      rcases Nat.eq_or_lt_of_le hj with heq | hlt
      · obtain rfl : (⟨i, hi⟩ : Fin T) = j := Fin.ext heq
        rw [← Plant.modelAlong_congr hagree (Nat.le_refl _), ← reached.behind.model_eq,
          Policy.correction_set_self, Policy.gain_set_self]
        exact hstationary
      · obtain ⟨hcorrection, hgain⟩ := hagree j hlt
        rw [← Plant.modelAlong_congr hagree (Nat.le_succ_of_le hlt), ← hcorrection, ← hgain]
        exact ih j hlt

/-- A pass that meets no limits goes over every knot. -/
theorem Reaches.knot_ne_error (hplant : plant.Convex) (hs : s.Sharp)
    (hfree : plant.Undisturbed s reference memory) {hi : i + 1 ≤ T}
    (h : Reaches plant s reference memory (i + 1) hi pass) (next : Pass ℝ n m T)
    (e : PassError ℝ) : pass.knot plant s reference ⟨i, hi⟩ ≠ (next, some e) := by
  cases e with
  | solve e =>
    intro hknot
    exact Plant.not_failsAt_solve hplant hs.regularization.ge (h.behind.failsAt hknot)
  | inverseSize =>
    intro hknot
    have hcase := knot_cases plant s reference ⟨i, hi⟩ pass
    rw [hknot] at hcase
    cases hcase with
    | mismatch _ outcome gainless =>
      obtain ⟨K, hK, -⟩ :=
        exists_stationary hplant hs (h.posSemidef hplant) (hfree i hi pass h) outcome
      cases gainless.symm.trans hK

end Pass

/-- **A pass that meets no limits returns a policy that makes all models stationary.** -/
theorem Memory.exists_stationary {plant : Plant ℝ n m} {s : Settings ℝ}
    {reference : Trajectory ℝ n m T} {memory : Memory ℝ m} (hplant : plant.Convex) (hs : s.Sharp)
    (hfree : plant.Undisturbed s reference memory) :
    ∃ policy, (memory.backward s plant reference).2.outcome = .ok policy ∧
      plant.StationaryFrom reference 0 policy := by
  have hanswer := memory.backward_cases s plant reference
  generalize (memory.backward s plant reference).2 = answer at hanswer
  cases hanswer with
  | passed reached => exact ⟨_, rfl, reached.stationary hplant hs hfree⟩
  | failed reached fails => exact absurd fails (reached.knot_ne_error hplant hs hfree _ _)

end ProjectedNewton
