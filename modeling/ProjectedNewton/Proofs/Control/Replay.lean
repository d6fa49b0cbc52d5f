import ProjectedNewton.Control.Experiment
import ProjectedNewton.Proofs.Control.Prediction
import ProjectedNewton.Proofs.Solution.Valid

/-!
# Controls within their limits

Whatever a control law proposes, the plant limits it before it is applied. So the controls of a
trajectory are within their limits, and applied once more, as they are and without looking at the
state, they are not changed and lead through the same states.

The corrections of a backward pass need no limiting where the state is that of the reference: each
solve of the pass is limited to what is left of the control, so that the corrected control keeps
within the limits, even if the control itself does not.

* `Plant.WithinLimits` is said of a trajectory whose arithmetic may know NaN.
* `Plant.follow_openLoop_controls` is the replay, `Plant.SolvedBy.limits` the correction at a knot.
* `Policy.Moderate` is what limits do to a policy that a pass has found.
* `Plant.limited_and_replayed` is the main result.
-/

namespace ProjectedNewton

open Scalar

section Limits

variable {α : Type} [Scalar α] {n m T : Nat}

namespace Plant

/-- Every control that is a number is within its limits, if they are in order. -/
def WithinLimits (plant : Plant α n m) (t : Trajectory α n m T) : Prop :=
  ∀ i j, isNaN (t.control i j) = false → le (plant.lower j) (plant.upper j) →
    le (plant.lower j) (t.control i j) ∧ le (t.control i j) (plant.upper j)

variable {plant : Plant α n m} {law : ControlLaw α n m T} {x : Vec α n}

/-- **The controls of a trajectory lead through the same states when they are applied again.** -/
theorem follow_openLoop_controls (hlimit : ∀ u, plant.limit (plant.limit u) = plant.limit u) :
    plant.follow (openLoop (plant.follow law x).controls) x = plant.follow law x := by
  have hstart : (plant.follow (openLoop (plant.follow law x).controls) x).state 0
      = (plant.follow law x).state 0 := by
    rw [follow_state_zero, follow_state_zero]
  -- Both trajectories follow the controls of the first one.
  have hlaw (i : Fin T) : (plant.follow (openLoop (plant.follow law x).controls) x).control i
      = openLoop (plant.follow law x).controls i
          ((plant.follow (openLoop (plant.follow law x).controls) x).state i.castSucc) := by
    rw [follow_control]
    show plant.limit ((plant.follow law x).control i) = (plant.follow law x).control i
    rw [follow_control, hlimit]
  exact eq_of_law (plant.moves_follow _ _) (plant.moves_follow _ _) hstart hlaw fun _ => rfl

variable [LawfulScalar α]

/-- A limited control is not changed when it is limited again. -/
theorem limit_limit (u : Vec α m) : plant.limit (plant.limit u) = plant.limit u := by
  refine Vec.ext_entry ?_
  intro j
  rw [entry_limit, entry_limit, clamp_clamp]

/-- A limited number is within limits that are in order. -/
theorem le_entry_limit {u : Vec α m} {j : Fin m} (hu : isNaN (plant.limit u j) = false)
    (hordered : le (plant.lower j) (plant.upper j)) :
    le (plant.lower j) (plant.limit u j) ∧ le (plant.limit u j) (plant.upper j) := by
  obtain ⟨hlower, hupper⟩ := isNaN_of_le hordered
  rw [entry_limit] at hu ⊢
  have hnumber : isNaN (u j) = false := by
    cases hnan : isNaN (u j) with
    | false => rfl
    | true => rwa [clamp_of_isNaN hnan, hnan] at hu
  exact ⟨le_clamp hnumber hlower hordered, clamp_le hnumber hlower hupper⟩

/-- **The controls of a trajectory are within their limits.** -/
theorem withinLimits_follow : plant.WithinLimits (plant.follow law x) := by
  intro i j hnumber hordered
  rw [follow_control] at hnumber ⊢
  exact le_entry_limit hnumber hordered

end Plant

end Limits

/-! ## Corrections in exact arithmetic -/

variable {n m T : ℕ} {plant : Plant ℝ n m} {reference : Trajectory ℝ n m T}
  {policy : Policy ℝ n m T}

namespace Plant

/-- **The corrected control of a knot that has been solved is within the limits.** -/
theorem SolvedBy.limits {s : Settings ℝ} {i : Fin T} {sol : Solution ℝ m}
    (h : plant.SolvedBy s reference policy i sol)
    (hordered : ∀ j, plant.lower j ≤ plant.upper j) (j : Fin m) :
    plant.lower j ≤ reference.control i j + policy.correction i j ∧
      reference.control i j + policy.correction i j ≤ plant.upper j := by
  have hvalid : sol.Valid (plant.problemAlong reference policy i) :=
    (ending_of_outcome h.outcome).valid
      (fun _ => ⟨Exact.isNaN_eq_false, Exact.isNaN_eq_false⟩) fun _ => Exact.isNaN_eq_false
  have hlower : (plant.problemAlong reference policy i).lower j
      = plant.lower j - reference.control i j := Vec.entry_sub _ _ j
  have hupper : (plant.problemAlong reference policy i).upper j
      = plant.upper j - reference.control i j := Vec.entry_sub _ _ j
  -- The bounds of the correction are in order because the limits are.
  have hbounds : le ((plant.problemAlong reference policy i).lower j)
      ((plant.problemAlong reference policy i).upper j) := by
    rw [hlower, hupper, Exact.le_iff]
    exact sub_le_sub_right (hordered j) _
  have hle := Exact.le_iff.mp (hvalid.feasible.lower_le j hbounds)
  have hge := Exact.le_iff.mp (hvalid.feasible.le_upper j hbounds)
  rw [hlower] at hle
  rw [hupper] at hge
  rw [h.correction]
  exact ⟨sub_le_iff_le_add'.mp hle, le_sub_iff_add_le'.mp hge⟩

end Plant

/-- In the state of the reference a policy proposes the corrected control. -/
theorem Policy.around_of_state_eq {x : Vec ℝ n} {i : Fin T}
    (hx : x = reference.state i.castSucc) :
    policy.around reference i x = (reference.control i).add (policy.correction i) := by
  refine Vec.ext_entry (congrFun ?_)
  unfold around
  dsimp only
  rw [hx, Exact.add_eq, Exact.add_eq, Exact.add_eq, Exact.mulVec_eq, Exact.sub_eq, sub_self,
    Matrix.mulVec_zero, add_zero]

/-- A policy around a reference whose corrections the limits of the plant leave as they are. -/
structure Policy.Moderate (policy : Policy ℝ n m T) (plant : Plant ℝ n m)
    (reference : Trajectory ℝ n m T) : Prop where
  /-- The corrected controls of the reference are within the limits, at every knot. -/
  limits (i : Fin T) (j : Fin m) :
    plant.lower j ≤ reference.control i j + policy.correction i j ∧
      reference.control i j + policy.correction i j ≤ plant.upper j
  /-- Where the state is that of the reference, the proposed control is not changed, and is the
  corrected one. -/
  unchanged {x : Vec ℝ n} {i : Fin T}
    (state : (plant.follow (policy.around reference) x).state i.castSucc
      = reference.state i.castSucc) :
    plant.limit (policy.around reference i
        ((plant.follow (policy.around reference) x).state i.castSucc))
      = policy.around reference i ((plant.follow (policy.around reference) x).state i.castSucc) ∧
    (plant.follow (policy.around reference) x).control i
      = (reference.control i).add (policy.correction i)

/-- The corrections of a policy that has been solved for are moderate. -/
theorem Plant.moderate_of_solved {s : Settings ℝ}
    (h : ∀ i, plant.Solved s reference policy i)
    (hordered : ∀ j, plant.lower j ≤ plant.upper j) : policy.Moderate plant reference := by
  have hlimits (i : Fin T) (j : Fin m) :
      plant.lower j ≤ reference.control i j + policy.correction i j ∧
        reference.control i j + policy.correction i j ≤ plant.upper j := by
    obtain ⟨sol, hsol⟩ := h i
    exact hsol.limits hordered j
  refine ⟨hlimits, ?_⟩
  intro x i hstate
  have hlimit : plant.limit ((reference.control i).add (policy.correction i))
      = (reference.control i).add (policy.correction i) := by
    refine limit_of_mem ?_
    intro j
    rw [Vec.entry_add]
    exact hlimits i j
  rw [follow_control, Policy.around_of_state_eq hstate]
  exact ⟨hlimit, hlimit⟩

/-! ## Forward passes -/

/-- **Forward passes keep to the limits and can be replayed**, under any control law, be it given
controls or a policy around a reference. That limiting twice is limiting once is all that the replay
needs of the arithmetic. In exact arithmetic, the limits do not change the corrections of a policy
that a backward pass has found, wherever the state is that of the reference, as it is at the first
knot if the start is. -/
theorem Plant.limited_and_replayed :
    (∀ {α : Type} [Scalar α] {n m T : ℕ} (plant : Plant α n m) (law : ControlLaw α n m T)
      (x : Vec α n),
      (plant.follow law x).state 0 = x ∧ plant.Moves (plant.follow law x) ∧
      ([LawfulScalar α] → plant.WithinLimits (plant.follow law x)) ∧
      ((∀ u, plant.limit (plant.limit u) = plant.limit u) →
        plant.follow (openLoop (plant.follow law x).controls) x = plant.follow law x)) ∧
    ∀ {n m T : ℕ} {solver solver' : Solver ℝ} {plant : Plant ℝ n m}
      {reference : Trajectory ℝ n m T} {answer : PassAnswer ℝ n m T} {policy : Policy ℝ n m T},
      (∀ j, plant.lower j ≤ plant.upper j) →
      solver.backward? plant reference = some (solver', answer) → answer.outcome = .ok policy →
        policy.Moderate plant reference ∧ ∀ i : Fin T, i.val = 0 →
          (plant.corrected reference policy).control i
            = (reference.control i).add (policy.correction i) := by
  constructor
  · intro α _ n m T plant law x
    exact ⟨plant.follow_state_zero law x, plant.moves_follow law x, withinLimits_follow,
      follow_openLoop_controls⟩
  · intro n m T solver solver' plant reference answer policy hordered hpass hpolicy
    obtain ⟨memory, rfl⟩ := Solver.exists_memory_of_backward? hpass
    have hmoderate : policy.Moderate plant reference :=
      moderate_of_solved (Memory.backward_ok hpolicy).1 hordered
    refine ⟨hmoderate, ?_⟩
    intro i hi
    have hfirst : i.castSucc = 0 := Fin.ext hi
    refine (hmoderate.unchanged ?_).2
    rw [hfirst]
    exact plant.follow_state_zero _ _

/-- Two forces for each of two knots, one of them not a number and the others too large. -/
def excessive : Vector (Vec Float 2) 2 := #v[#v[0.0 / 0.0, 3.0], #v[-7.0, 1.0 / 0.0]]

/-- Doubles can be replayed over two knots, and the policy of the parked cart is moderate. -/
theorem Plant.limited_and_replayed_cart :
    (Parameters.standardPlant.WithinLimits
        (Parameters.standardPlant.follow (openLoop excessive) #v[1.0, -1.0, 0.0, 0.0]) ∧
      Parameters.standardPlant.follow (openLoop (Parameters.standardPlant.follow
          (openLoop excessive) #v[1.0, -1.0, 0.0, 0.0]).controls) #v[1.0, -1.0, 0.0, 0.0]
        = Parameters.standardPlant.follow (openLoop excessive) #v[1.0, -1.0, 0.0, 0.0]) ∧
    ∃ (solver : Solver ℝ) (answer : PassAnswer ℝ 1 1 2) (policy : Policy ℝ 1 1 2),
      Solver.backward? ⟨1, Settings.quarter 1, .fresh 1 none⟩ cart Trajectory.parked
        = some (solver, answer) ∧ answer.outcome = .ok policy ∧
      policy.Moderate cart Trajectory.parked ∧
      (cart.corrected Trajectory.parked policy).control 0 0 = -3 ∧
      cart.follow (openLoop (cart.corrected Trajectory.parked policy).controls)
        (Trajectory.parked.state 0) = cart.corrected Trajectory.parked policy := by
  constructor
  · obtain ⟨-, -, hwithin, hreplay⟩ := limited_and_replayed.1 Parameters.standardPlant
      (openLoop excessive) #v[1.0, -1.0, 0.0, 0.0]
    exact ⟨hwithin, hreplay limit_limit⟩
  · obtain ⟨solver, answer, policy, hpass, hpolicy, hsolved⟩ := Solver.exists_policy_cart
    have hordered : ∀ j, cart.lower j ≤ cart.upper j := by
      intro j
      obtain rfl := Fin.fin_one_eq_zero j
      rw [lower_cart, upper_cart]
      norm_num
    obtain ⟨hmoderate, hfirst⟩ := limited_and_replayed.2 hordered hpass hpolicy
    obtain ⟨-, -, -, hreplay⟩ := limited_and_replayed.1 cart (policy.around Trajectory.parked)
      (Trajectory.parked.state 0)
    refine ⟨solver, answer, policy, hpass, hpolicy, hmoderate, ?_, hreplay limit_limit⟩
    rw [hfirst 0 rfl, control_parked, Vec.entry_add, Vec.entry_zero, zero_add]
    exact (solution_cart hsolved).2.2.1

end ProjectedNewton
