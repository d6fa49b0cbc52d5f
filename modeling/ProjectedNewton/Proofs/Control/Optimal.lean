import ProjectedNewton.Proofs.Control.Prediction
import ProjectedNewton.Proofs.Control.Stationary

/-!
# Optimal trajectories

With convex costs and without limits, one pass is enough: the trajectory under its policy is the one
of least cost from its start. It does not depend on the reference along which the pass was made.

The policy makes the models at all knots stationary. A control that departs from it raises the model
by the curvature of the departure, and as the models telescope, nothing else makes a difference
between the cost of a trajectory and the cost of the one under the policy.

* `Plant.departure` and `Plant.excess` are the difference to the policy and what it costs.
* `Plant.cost_sub_cost_corrected` compares the trajectory under the policy to any other one.
* `Plant.Optimal` and `Plant.optimal_corrected`: it is the only one of least cost.
* `Solver.exists_optimal_of_backward` is the result for a pass.
-/

namespace ProjectedNewton

open Matrix

variable {n m T : ℕ}

/-! ## Costs under a stationary policy -/

namespace Plant

variable {plant : Plant ℝ n m} {reference t t' : Trajectory ℝ n m T} {policy : Policy ℝ n m T}

/-- How far the control at a knot departs from what the policy proposes for its state. -/
noncomputable def departure (reference : Trajectory ℝ n m T) (policy : Policy ℝ n m T)
    (t : Trajectory ℝ n m T) (i : Fin T) : Fin m → ℝ :=
  (t.control i).entry - (policy.around reference i (t.state i.castSucc)).entry

/-- What the departure at a knot costs. -/
noncomputable def excess (plant : Plant ℝ n m) (reference : Trajectory ℝ n m T)
    (policy : Policy ℝ n m T) (t : Trajectory ℝ n m T) (i : Fin T) : ℝ :=
  Scalar.half * (departure reference policy t i
    ⬝ᵥ (plant.modelAlong reference policy i).controlHessian.toMatrix
      *ᵥ departure reference policy t i)

/-- **The change of the cost by any controls**, if the policy makes all models stationary. -/
theorem cost_sub_cost_of_stationary (hplant : plant.Convex) (hreference : plant.Moves reference)
    (ht : plant.Moves t) (hstart : t.state 0 = reference.state 0)
    (hstationary : plant.StationaryFrom reference 0 policy) :
    plant.cost t - plant.cost reference
      = ∑ i, plant.predicted reference policy i + ∑ i, plant.excess reference policy t i := by
  rw [cost_sub_eq_sum policy hplant.symmetric hreference ht hstart, ← Finset.sum_add_distrib]
  refine Finset.sum_congr rfl ?_
  intro i _
  have hdeparture : (t.control i).entry - (reference.control i).entry
        - ((policy.correction i).entry
          + (policy.gain i).toMatrix *ᵥ deviation reference t i.castSucc)
      = departure reference policy t i := by
    unfold departure
    rw [entry_around]
    abel
  rw [(hstationary i (Nat.zero_le _)).value_eq (posDef_modelAlong hplant).isHermitian, hdeparture,
    valueAlong_castSucc]
  unfold excess predicted
  rw [Exact.half_eq]
  ring

/-- **What a trajectory costs more than that under the policy.** -/
theorem cost_sub_cost_corrected (hplant : plant.Convex) (hreference : plant.Moves reference)
    (ht : plant.Moves t) (hstart : t.state 0 = reference.state 0)
    (hstationary : plant.StationaryFrom reference 0 policy)
    (hlimits : plant.Unlimited reference policy) :
    plant.cost t - plant.cost (plant.corrected reference policy)
      = ∑ i, plant.excess reference policy t i := by
  have hany := cost_sub_cost_of_stationary hplant hreference ht hstart hstationary
  have hcorrected := hlimits.cost_sub_cost hplant.symmetric hreference
  linarith

theorem excess_nonneg (hplant : plant.Convex) (i : Fin T) :
    0 ≤ plant.excess reference policy t i := by
  have hmodel : (plant.modelAlong reference policy i).controlHessian.toMatrix.PosDef :=
    posDef_modelAlong hplant
  have hform := hmodel.posSemidef.dotProduct_mulVec_nonneg (departure reference policy t i)
  rw [star_trivial] at hform
  unfold excess
  rw [Exact.half_eq]
  linarith

/-- Only a control that departs from the policy has a cost. -/
theorem control_eq_of_excess (hplant : plant.Convex) {i : Fin T}
    (h : plant.excess reference policy t i = 0) :
    t.control i = policy.around reference i (t.state i.castSucc) := by
  have hmodel : (plant.modelAlong reference policy i).controlHessian.toMatrix.PosDef :=
    posDef_modelAlong hplant
  by_contra hne
  have hdeparts : departure reference policy t i ≠ 0 := by
    intro hzero
    exact hne (Vec.ext_entry (congrFun (sub_eq_zero.mp hzero)))
  have hform := hmodel.dotProduct_mulVec_pos hdeparts
  rw [star_trivial] at hform
  unfold excess at h
  rw [Exact.half_eq] at h
  linarith

/-! ## Optimal trajectories -/

/-- The only trajectory of least cost from its start. -/
structure Optimal (plant : Plant ℝ n m) (t : Trajectory ℝ n m T) : Prop where
  moves : plant.Moves t
  cost_lt {t' : Trajectory ℝ n m T} : plant.Moves t' → t'.state 0 = t.state 0 → t' ≠ t →
    plant.cost t < plant.cost t'

/-- There is at most one such trajectory from a start. -/
theorem Optimal.unique (ht : plant.Optimal t) (ht' : plant.Optimal t')
    (hstart : t'.state 0 = t.state 0) : t' = t := by
  by_contra hne
  have hlt := ht.cost_lt ht'.moves hstart hne
  have hlt' := ht'.cost_lt ht.moves hstart.symm (Ne.symm hne)
  exact lt_asymm hlt hlt'

theorem Optimal.cost_le (ht : plant.Optimal t) (hmoves : plant.Moves t')
    (hstart : t'.state 0 = t.state 0) : plant.cost t ≤ plant.cost t' := by
  by_cases heq : t' = t
  · rw [heq]
  · exact (ht.cost_lt hmoves hstart heq).le

/-- **The trajectory under a stationary policy is optimal**, if no control is limited on it. -/
theorem optimal_corrected (hplant : plant.Convex) (hreference : plant.Moves reference)
    (hstationary : plant.StationaryFrom reference 0 policy)
    (hlimits : plant.Unlimited reference policy) :
    plant.Optimal (plant.corrected reference policy) where
  moves := moves_corrected
  cost_lt := by
    intro t ht hstart hne
    have hexcess := cost_sub_cost_corrected hplant hreference ht
      (hstart.trans corrected_state_zero) hstationary hlimits
    have hnonneg (i : Fin T) : 0 ≤ plant.excess reference policy t i := excess_nonneg hplant i
    have hsum := Finset.sum_nonneg fun i (_ : i ∈ Finset.univ) => hnonneg i
    refine lt_of_le_of_ne (by linarith) ?_
    intro hcost
    -- At the same cost no control departs from the policy, and then the trajectory is the same.
    rw [hcost, sub_self, eq_comm, Finset.sum_eq_zero_iff_of_nonneg fun i _ => hnonneg i] at hexcess
    have hlaw (i : Fin T) : t.control i = policy.around reference i (t.state i.castSucc) :=
      control_eq_of_excess hplant (hexcess i (Finset.mem_univ i))
    exact hne (eq_of_law ht moves_corrected hstart hlaw hlimits.control_eq)

end Plant

/-- A pass that meets no limits returns a policy, and the trajectory under it is optimal if no
control is limited on it. -/
theorem Solver.exists_policy_of_undisturbed {solver : Solver ℝ} {plant : Plant ℝ n m}
    {reference : Trajectory ℝ n m T} (hplant : plant.Convex) (hdim : solver.dimension = m)
    (hs : solver.settings.Sharp) (hmoves : plant.Moves reference)
    (hfree : plant.Undisturbed solver.settings reference (hdim ▸ solver.memory)) :
    ∃ solver' answer policy, solver.backward? plant reference = some (solver', answer) ∧
      answer.outcome = .ok policy ∧
      (plant.Unlimited reference policy → plant.Optimal (plant.corrected reference policy)) := by
  obtain ⟨solver', hpass⟩ := exists_backward?_eq plant reference hdim
  obtain ⟨policy, hpolicy, hstationary⟩ := Memory.exists_stationary hplant hs hfree
  refine ⟨solver', _, policy, hpass, hpolicy, ?_⟩
  exact Plant.optimal_corrected hplant hmoves hstationary

/-- **One pass is optimal, if no limits are met.** Whatever the reference from the start `x`, the
pass returns a policy. If no control is limited on the trajectory under it, this is the best
trajectory from `x`, which does not depend on the reference. -/
theorem Solver.exists_optimal_of_backward {plant : Plant ℝ n m} (hplant : plant.Convex)
    (x : Vec ℝ n) : ∃ best : Trajectory ℝ n m T,
    ∀ (solver : Solver ℝ) (hdim : solver.dimension = m) (reference : Trajectory ℝ n m T),
      solver.settings.Sharp → plant.Moves reference → reference.state 0 = x →
      plant.Undisturbed solver.settings reference (hdim ▸ solver.memory) →
      ∃ solver' answer policy, solver.backward? plant reference = some (solver', answer) ∧
        answer.outcome = .ok policy ∧
        (plant.Unlimited reference policy → plant.corrected reference policy = best ∧
          ∀ t : Trajectory ℝ n m T, plant.Moves t → t.state 0 = x →
            plant.cost (plant.corrected reference policy) ≤ plant.cost t) := by
  by_cases hbest : ∃ best : Trajectory ℝ n m T, plant.Optimal best ∧ best.state 0 = x
  · obtain ⟨best, hoptimal, hstart⟩ := hbest
    refine ⟨best, ?_⟩
    intro solver hdim reference hs hmoves hx hfree
    obtain ⟨solver', answer, policy, hpass, hpolicy, hcorrected⟩ :=
      exists_policy_of_undisturbed hplant hdim hs hmoves hfree
    refine ⟨solver', answer, policy, hpass, hpolicy, ?_⟩
    intro hlimits
    have hcorrectedStart : (plant.corrected reference policy).state 0 = x :=
      Plant.corrected_state_zero.trans hx
    constructor
    · exact hoptimal.unique (hcorrected hlimits) (hcorrectedStart.trans hstart.symm)
    · intro t ht htx
      exact (hcorrected hlimits).cost_le ht (htx.trans hcorrectedStart.symm)
  · -- No pass from this start leads to a trajectory on which no control is limited.
    refine ⟨plant.follow (fun _ _ => Vec.zero m) x, ?_⟩
    intro solver hdim reference hs hmoves hx hfree
    obtain ⟨solver', answer, policy, hpass, hpolicy, hcorrected⟩ :=
      exists_policy_of_undisturbed hplant hdim hs hmoves hfree
    refine ⟨solver', answer, policy, hpass, hpolicy, ?_⟩
    intro hlimits
    exact absurd ⟨_, hcorrected hlimits, Plant.corrected_state_zero.trans hx⟩ hbest

/-! ## Two knots of the cart -/

/-- No solve along the parked cart meets a limit. -/
theorem Plant.undisturbed_cart (memory : Memory ℝ 1) :
    cart.Undisturbed (Settings.quarter 1) Trajectory.parked memory := by
  intro i hi pass hreach
  have hbehind := hreach.behind
  rw [hbehind.model_eq, hbehind.warmStart]
  exact (roomy_of_solved hbehind.solved).interior

/-- One pass along the parked cart finds the best trajectory from its start. -/
theorem Solver.exists_optimal_cart : ∃ (solver : Solver ℝ) (answer : PassAnswer ℝ 1 1 2)
    (policy : Policy ℝ 1 1 2),
    Solver.backward? ⟨1, Settings.quarter 1, .fresh 1 none⟩ Plant.cart Trajectory.parked
      = some (solver, answer) ∧ answer.outcome = .ok policy ∧
    Plant.cart.Unlimited Trajectory.parked policy ∧
    ∀ t : Trajectory ℝ 1 1 2, Plant.cart.Moves t → t.state 0 = Trajectory.parked.state 0 →
      Plant.cart.cost (Plant.cart.corrected Trajectory.parked policy) ≤ Plant.cart.cost t := by
  obtain ⟨best, hbest⟩ : ∃ best : Trajectory ℝ 1 1 2, _ :=
    Solver.exists_optimal_of_backward Plant.convex_cart (Trajectory.parked.state 0)
  obtain ⟨solver, answer, policy, hpass, hpolicy, hoptimal⟩ :=
    hbest ⟨1, Settings.quarter 1, .fresh 1 none⟩ rfl Trajectory.parked Settings.sharp_quarter
      Plant.moves_parked rfl (Plant.undisturbed_cart _)
  obtain ⟨memory, rfl⟩ := Solver.exists_memory_of_backward? hpass
  have hlimits := Plant.unlimited_cart (Memory.backward_ok hpolicy).1
  exact ⟨solver, _, policy, hpass, hpolicy, hlimits, (hoptimal hlimits).2⟩

end ProjectedNewton
