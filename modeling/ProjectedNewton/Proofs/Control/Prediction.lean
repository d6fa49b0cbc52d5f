import ProjectedNewton.Proofs.Control.Gains
import ProjectedNewton.Proofs.Control.Rollout

/-!
# The predicted change of the cost

The objectives of the corrections that a backward pass reports add up to the change of the cost when
the policy is applied, as long as no control is changed by its limits. This does not depend on how
good the corrections and gains are: it holds for every policy.

At a knot, the cost changes by what the model there says, less what the model behind it says
(`Plant.stageCost_sub`). Under the policy, the model at the knot is the one in front of it, up to
the prediction. So the models telescope. At the first knot the state has not been changed, and
behind the last one the model is the cost of the last state.

* `Plant.cost_sub_eq_sum` is the change of the cost by any controls, `Plant.cost_sub_cost` that
  under the policy.
* `Solver.cost_sub_cost_of_backward` is the result for a policy that a pass has returned.
-/

namespace ProjectedNewton

open Matrix

variable {n m T : ℕ}

/-- A sum of differences of neighbours. -/
theorem sum_castSucc_sub_succ (f : Fin (T + 1) → ℝ) :
    ∑ i : Fin T, (f i.castSucc - f i.succ) = f 0 - f (Fin.last T) := by
  have hfront := Fin.sum_univ_succ f
  have hback := Fin.sum_univ_castSucc f
  rw [Finset.sum_sub_distrib]
  linarith

namespace Plant

variable {plant : Plant ℝ n m} {t t' : Trajectory ℝ n m T} {policy : Policy ℝ n m T}

/-- The cost of a trajectory, knot by knot. -/
theorem cost_eq (plant : Plant ℝ n m) (t : Trajectory ℝ n m T) : plant.cost t
      = ∑ i : Fin T, plant.stageCost (t.state i.castSucc).entry (t.control i).entry
        + 1 / 2 * ((t.state (Fin.last T)).entry
            ⬝ᵥ plant.stateCost.toMatrix *ᵥ (t.state (Fin.last T)).entry) := by
  unfold cost stageCost
  rw [Exact.half_eq, Exact.sum_eq, Exact.sum_eq, Fin.sum_univ_castSucc, Finset.sum_add_distrib,
    ← Finset.mul_sum, ← Finset.mul_sum]
  simp only [Exact.form_eq]
  ring

/-! ## Deviations -/

/-- How far the state of one trajectory is from that of another. -/
def deviation (t t' : Trajectory ℝ n m T) (i : Fin (T + 1)) : Fin n → ℝ :=
  (t'.state i).entry - (t.state i).entry

theorem entry_next (x : Vec ℝ n) (u : Vec ℝ m) : (plant.next x u).entry
      = plant.stateMap.toMatrix *ᵥ x.entry + plant.controlMap.toMatrix *ᵥ u.entry := by
  unfold next
  rw [Exact.add_eq, Exact.mulVec_eq, Exact.mulVec_eq]

/-- The deviation moves like the state. -/
theorem deviation_succ (ht : plant.Moves t) (ht' : plant.Moves t') (i : Fin T) :
    deviation t t' i.succ = plant.stateMap.toMatrix *ᵥ deviation t t' i.castSucc
      + plant.controlMap.toMatrix *ᵥ ((t'.control i).entry - (t.control i).entry) := by
  unfold deviation
  rw [ht i, ht' i, entry_next, entry_next, mulVec_sub, mulVec_sub]
  abel

/-- The control that a policy proposes. -/
theorem entry_around (policy : Policy ℝ n m T) (i : Fin T) :
    (policy.around t i (t'.state i.castSucc)).entry = (t.control i).entry
      + ((policy.correction i).entry + (policy.gain i).toMatrix *ᵥ deviation t t' i.castSucc) := by
  unfold Policy.around deviation
  dsimp only
  rw [Exact.add_eq, Exact.add_eq, Exact.mulVec_eq, Exact.sub_eq]

/-! ## One knot -/

/-- The models in front of the knots are symmetric, and so is the one at the end. -/
theorem isSymm_valueAlong (hplant : plant.Symmetric) (i : Fin (T + 1)) :
    (plant.valueAlong t policy i).hessian.toMatrix.IsSymm := by
  cases i using Fin.lastCases with
  | last =>
    rw [valueAlong_last]
    exact hplant.stateCost
  | cast i =>
    rw [valueAlong_castSucc]
    exact KnotModel.isSymm_hessian_backup _ _ _

/-- **The change of the cost at a knot** is what the model says there, less what the model behind it
says. -/
theorem stageCost_sub (policy : Policy ℝ n m T) (hplant : plant.Symmetric) (ht : plant.Moves t)
    (ht' : plant.Moves t') (i : Fin T) :
    plant.stageCost (t'.state i.castSucc).entry (t'.control i).entry
        - plant.stageCost (t.state i.castSucc).entry (t.control i).entry
      = (plant.modelAlong t policy i).value (deviation t t' i.castSucc)
          ((t'.control i).entry - (t.control i).entry)
        - (plant.valueAlong t policy i.succ).value (deviation t t' i.succ) := by
  have hbehind : (plant.valueAlong t policy i.succ).hessian.toMatrix.IsSymm :=
    isSymm_valueAlong hplant i.succ
  have hstate : (t'.state i.castSucc).entry
      = (t.state i.castSucc).entry + deviation t t' i.castSucc :=
    (add_sub_cancel _ _).symm
  have hcontrol : (t'.control i).entry
      = (t.control i).entry + ((t'.control i).entry - (t.control i).entry) :=
    (add_sub_cancel _ _).symm
  have hexpand := value_expand (t.state i.castSucc) (t.control i) hplant hbehind
    (deviation t t' i.castSucc) ((t'.control i).entry - (t.control i).entry)
  rw [← deviation_succ ht ht' i, ← hstate, ← hcontrol] at hexpand
  unfold modelAlong
  linarith

/-- The model in front of a knot says the same as that at the knot, up to the prediction, if the
control follows the policy. -/
theorem value_modelAlong (hplant : plant.Symmetric) {i : Fin T}
    (hlaw : t'.control i = policy.around t i (t'.state i.castSucc)) :
    (plant.modelAlong t policy i).value (deviation t t' i.castSucc)
        ((t'.control i).entry - (t.control i).entry)
      = (plant.valueAlong t policy i.castSucc).value (deviation t t' i.castSucc)
        + plant.predicted t policy i := by
  have hsymm : (plant.modelAlong t policy i).controlHessian.toMatrix.IsSymm :=
    isSymm_controlHessian _ _ _ hplant.controlCost (isSymm_valueAlong hplant i.succ)
  rw [hlaw, entry_around, add_sub_cancel_left, KnotModel.value_backup _ _ hsymm,
    valueAlong_castSucc]
  rfl

/-! ## The whole trajectory -/

/-- **The models telescope**, for every policy and whatever the controls: what is left of them at a
knot is the difference between the model there and the one in front of it. -/
theorem cost_sub_eq_sum (policy : Policy ℝ n m T) (hplant : plant.Symmetric) (ht : plant.Moves t)
    (ht' : plant.Moves t') (hstart : t'.state 0 = t.state 0) :
    plant.cost t' - plant.cost t
      = ∑ i : Fin T, ((plant.modelAlong t policy i).value (deviation t t' i.castSucc)
          ((t'.control i).entry - (t.control i).entry)
        - (plant.valueAlong t policy i.castSucc).value (deviation t t' i.castSucc)) := by
  have hstages := Finset.sum_congr rfl fun i (_ : i ∈ Finset.univ) =>
    stageCost_sub policy hplant ht ht' i
  have htelescope := sum_castSucc_sub_succ fun i =>
    (plant.valueAlong t policy i).value (deviation t t' i)
  -- Of the models, only the first and the last one are left.
  have hfront : (plant.valueAlong t policy 0).value (deviation t t' 0) = 0 := by
    have hzero : deviation t t' 0 = 0 := by
      unfold deviation
      rw [hstart, sub_self]
    rw [hzero]
    unfold ValueModel.value
    rw [dotProduct_zero, zero_dotProduct, mul_zero, add_zero]
  have hlast : (plant.valueAlong t policy (Fin.last T)).value (deviation t t' (Fin.last T))
      = 1 / 2 * ((t'.state (Fin.last T)).entry
          ⬝ᵥ plant.stateCost.toMatrix *ᵥ (t'.state (Fin.last T)).entry)
        - 1 / 2 * ((t.state (Fin.last T)).entry
          ⬝ᵥ plant.stateCost.toMatrix *ᵥ (t.state (Fin.last T)).entry) := by
    have hstate : (t'.state (Fin.last T)).entry
        = (t.state (Fin.last T)).entry + deviation t t' (Fin.last T) :=
      (add_sub_cancel _ _).symm
    rw [valueAlong_last, hstate, dotProduct_mulVec_add hplant.stateCost]
    unfold ValueModel.value terminal
    rw [Exact.mulVec_eq, Exact.half_eq]
    ring
  rw [cost_eq, cost_eq]
  simp only [Finset.sum_sub_distrib] at hstages htelescope ⊢
  linarith

/-- **The predictions add up to the change of the cost**, for every policy. -/
theorem cost_sub_cost (hplant : plant.Symmetric) (ht : plant.Moves t) (ht' : plant.Moves t')
    (hstart : t'.state 0 = t.state 0)
    (hlaw : ∀ i, t'.control i = policy.around t i (t'.state i.castSucc)) :
    plant.cost t' - plant.cost t = ∑ i, plant.predicted t policy i := by
  rw [cost_sub_eq_sum policy hplant ht ht' hstart]
  refine Finset.sum_congr rfl ?_
  intro i _
  rw [value_modelAlong hplant (hlaw i), add_sub_cancel_left]

end Plant

/-! ## The policy of a pass -/

/-- The trajectory under a policy that has been found along the reference. -/
noncomputable def Plant.corrected (plant : Plant ℝ n m) (reference : Trajectory ℝ n m T)
    (policy : Policy ℝ n m T) : Trajectory ℝ n m T :=
  plant.follow (policy.around reference) (reference.state 0)

/-- No control that the policy proposes along its trajectory is changed by the limits. -/
def Plant.Unlimited (plant : Plant ℝ n m) (reference : Trajectory ℝ n m T)
    (policy : Policy ℝ n m T) : Prop :=
  ∀ i : Fin T,
    plant.limit (policy.around reference i ((plant.corrected reference policy).state i.castSucc))
      = policy.around reference i ((plant.corrected reference policy).state i.castSucc)

namespace Plant

variable {plant : Plant ℝ n m} {reference : Trajectory ℝ n m T} {policy : Policy ℝ n m T}

theorem corrected_state_zero :
    (plant.corrected reference policy).state 0 = reference.state 0 :=
  plant.follow_state_zero _ _

theorem moves_corrected : plant.Moves (plant.corrected reference policy) := plant.moves_follow _ _

namespace Unlimited

variable (h : plant.Unlimited reference policy)
include h

theorem control_eq (i : Fin T) : (plant.corrected reference policy).control i
    = policy.around reference i ((plant.corrected reference policy).state i.castSucc) :=
  (plant.follow_control _ _ i).trans (h i)

/-- Without limits, the cost changes as predicted. -/
theorem cost_sub_cost (hplant : plant.Symmetric) (hmoves : plant.Moves reference) :
    plant.cost (plant.corrected reference policy) - plant.cost reference
      = ∑ i, plant.predicted reference policy i :=
  Plant.cost_sub_cost hplant hmoves moves_corrected corrected_state_zero h.control_eq

end Unlimited

end Plant

/-- **The cost changes by what the pass has predicted**: by the sum of the objectives of the
corrections at all knots, which are those that it has reported. -/
theorem Solver.cost_sub_cost_of_backward {solver solver' : Solver ℝ} {plant : Plant ℝ n m}
    {reference : Trajectory ℝ n m T} {answer : PassAnswer ℝ n m T} {policy : Policy ℝ n m T}
    (hplant : plant.Symmetric) (hmoves : plant.Moves reference)
    (hpass : solver.backward? plant reference = some (solver', answer))
    (hpolicy : answer.outcome = .ok policy) (hlimits : plant.Unlimited reference policy) :
    plant.cost (plant.corrected reference policy) - plant.cost reference
        = ∑ i, plant.predicted reference policy i ∧
      answer.trace.toList.filterMap PassEvent.logged?
        = (List.finRange T).reverse.map fun i => (i.val, plant.predicted reference policy i) := by
  obtain ⟨memory, rfl⟩ := exists_memory_of_backward? hpass
  obtain ⟨-, hlogged⟩ := Memory.backward_ok hpolicy
  exact ⟨hlimits.cost_sub_cost hplant hmoves, hlogged⟩

/-! ## Two knots of the cart -/

namespace Plant

/-- A control within its limits is not changed. -/
theorem limit_of_mem {plant : Plant ℝ n m} {u : Vec ℝ m}
    (h : ∀ j, plant.lower j ≤ u j ∧ u j ≤ plant.upper j) : plant.limit u = u := by
  refine Vec.ext_entry ?_
  intro j
  rw [entry_limit, Exact.clamp_eq, max_eq_left (h j).1, min_eq_left (h j).2]

theorem limit_cart {u : Vec ℝ 1} {a : ℝ} (hu : u 0 = a) (ha : -4 ≤ a ∧ a ≤ 4) :
    cart.limit u = u := by
  refine limit_of_mem ?_
  intro j
  obtain rfl := Fin.fin_one_eq_zero j
  rw [lower_cart, upper_cart, hu]
  exact ha

/-- The force is added to the place. -/
theorem next_cart (x u : Vec ℝ 1) : cart.next x u 0 = x 0 + u 0 := by
  have hstateMap : cart.stateMap.toMatrix = 1 := toMatrix_ofInts_one
  have hcontrolMap : cart.controlMap.toMatrix = 1 := toMatrix_ofInts_one
  refine (congrFun (entry_next x u) 0).trans ?_
  rw [hstateMap, hcontrolMap, one_mulVec, one_mulVec, Pi.add_apply]

theorem moves_parked : cart.Moves Trajectory.parked := by
  intro i
  refine Vec.ext_entry ?_
  intro j
  obtain rfl := Fin.fin_one_eq_zero j
  rw [next_cart, control_parked, Vec.entry_zero, add_zero, state_parked, state_parked]

variable {policy : Policy ℝ 1 1 2} {i : Fin 2}

/-- The objective of a correction, in numbers. -/
theorem predicted_cart (policy : Policy ℝ 1 1 2) (i : Fin 2) :
    cart.predicted Trajectory.parked policy i
      = 1 / 2 * ((1 + curvature policy i.succ) * policy.correction i 0 * policy.correction i 0)
        + slope policy i.succ * policy.correction i 0 := by
  obtain ⟨-, hcontrol, -, hhessian, -⟩ := modelAlong_cart policy i
  unfold predicted
  rw [Exact.quadraticValue_eq, ← hcontrol, ← hhessian]
  simp [mulVec, dotProduct]
  ring

/-- What the policy proposes, in numbers. -/
theorem around_parked (policy : Policy ℝ 1 1 2) (i : Fin 2) (x : Vec ℝ 1) :
    policy.around Trajectory.parked i x 0
      = policy.correction i 0 + policy.gain i 0 0 * (x 0 - 5) := by
  have hgain : (policy.gain i).mulVec (x.sub (Vec.ofInts ![5])) 0
      = policy.gain i 0 0 * (x 0 - 5) := by
    rw [Mat.entry_mulVec, Exact.dot_eq, Exact.sub_eq]
    simp [dotProduct, Vec.entry_ofInts]
  unfold Policy.around
  dsimp only
  rw [control_parked, state_parked, Vec.entry_add, Vec.entry_add, Vec.entry_zero, zero_add, hgain]

section Solved

variable (h : ∀ i, cart.Solved (Settings.quarter 1) Trajectory.parked policy i)
include h

/-- At the first knot the policy proposes `-3`. -/
theorem around_first : policy.around Trajectory.parked 0
    ((cart.corrected Trajectory.parked policy).state 0) 0 = -3 := by
  obtain ⟨-, -, hcorrection, -⟩ := solution_cart h
  rw [around_parked, corrected_state_zero, state_parked, Vec.entry_ofInts, hcorrection]
  norm_num

/-- So the cart moves to two, and there the policy proposes `-1`. -/
theorem around_last : policy.around Trajectory.parked 1
    ((cart.corrected Trajectory.parked policy).state 1) 0 = -1 := by
  have hcontrol : (cart.corrected Trajectory.parked policy).control 0
      = policy.around Trajectory.parked 0 ((cart.corrected Trajectory.parked policy).state 0) :=
    (cart.follow_control _ _ 0).trans (limit_cart (around_first h) (by norm_num))
  have hmoves : (cart.corrected Trajectory.parked policy).state 1
      = cart.next ((cart.corrected Trajectory.parked policy).state 0)
          ((cart.corrected Trajectory.parked policy).control 0) := moves_corrected 0
  obtain ⟨hcorrection, hgain, -, -⟩ := solution_cart h
  rw [around_parked, hmoves, next_cart, hcontrol, around_first h, corrected_state_zero,
    state_parked, Vec.entry_ofInts, hcorrection, hgain]
  norm_num

/-- **The limits do not matter** to the policy. -/
theorem unlimited_cart : cart.Unlimited Trajectory.parked policy := by
  intro i
  fin_cases i
  · exact limit_cart (around_first h) (by norm_num)
  · exact limit_cart (around_last h) (by norm_num)

/-- The corrections lower the cost at both knots. -/
theorem predicted_cart_eq : cart.predicted Trajectory.parked policy 1 = -25 / 4 ∧
    cart.predicted Trajectory.parked policy 0 = -45 / 4 := by
  obtain ⟨hslope, hcurvature⟩ := slope_last policy
  obtain ⟨-, -, hslope', hcurvature'⟩ := solution_last (h 1)
  obtain ⟨hlast, -, hfirst, -⟩ := solution_cart h
  rw [predicted_cart, predicted_cart, hlast, hfirst]
  change 1 / 2 * ((1 + curvature policy 2) * _ * _) + slope policy 2 * _ = _ ∧
    1 / 2 * ((1 + curvature policy 1) * _ * _) + slope policy 1 * _ = _
  rw [hslope, hcurvature, hslope', hcurvature']
  norm_num

end Solved

end Plant

/-- The policy of a pass along the parked cart changes the cost as predicted. -/
theorem Solver.cost_sub_cost_cart : ∃ (solver : Solver ℝ) (answer : PassAnswer ℝ 1 1 2)
    (policy : Policy ℝ 1 1 2),
    Solver.backward? ⟨1, Settings.quarter 1, .fresh 1 none⟩ Plant.cart Trajectory.parked
      = some (solver, answer) ∧
    answer.outcome = .ok policy ∧
    Plant.cart.cost (Plant.cart.corrected Trajectory.parked policy)
      - Plant.cart.cost Trajectory.parked = -35 / 2 ∧
    answer.trace.toList.filterMap PassEvent.logged? = [(1, -25 / 4), (0, -45 / 4)] := by
  obtain ⟨solver, answer, policy, hpass, hpolicy, hsolved⟩ := exists_policy_cart
  obtain ⟨hcost, hlogged⟩ := Solver.cost_sub_cost_of_backward Plant.convex_cart.symmetric
    Plant.moves_parked hpass hpolicy (Plant.unlimited_cart hsolved)
  obtain ⟨hlast, hfirst⟩ := Plant.predicted_cart_eq hsolved
  rw [Fin.sum_univ_two, hlast, hfirst] at hcost
  refine ⟨solver, answer, policy, hpass, hpolicy, ?_, ?_⟩
  · rw [hcost]
    norm_num
  · rw [hlogged, ← hlast, ← hfirst]
    rfl

end ProjectedNewton
