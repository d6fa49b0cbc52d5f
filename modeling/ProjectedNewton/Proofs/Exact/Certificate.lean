import ProjectedNewton.Proofs.Solver.Budget
import ProjectedNewton.Proofs.Solution.Valid

/-!
# The certificate in a converged solution

For a positive semidefinite Hessian, a solution with a status other than `maxIterations` shows by
itself how far it can be from the minimum. The objective lies above its tangent at the returned
point `x`. On a clamped coordinate the tangent rises towards the inside of the box, so only the free
ones can leave a gap, and there it is at most `|g i| * |y i - x i|`.

What is known of the gradient `g` on the free coordinates depends on the status: there are none, or
`g` is within the tolerance, or the Newton step is. In the last case `g` is only small up to the
regularization `r`, which moves the target of the Newton step by `r x`.

* `Problem.gap_le` is the bound on the gap at a feasible point with its own split.
* `Solver.certificate_of_returns` is the main result.
-/

namespace ProjectedNewton

open Matrix

variable {n : ℕ}

/-! ## The gap -/

namespace Problem

/-- The point lies between the bounds. -/
def InBox (p : Problem ℝ n) (x : Vec ℝ n) : Prop := ∀ i, p.lower i ≤ x i ∧ x i ≤ p.upper i

variable {p : Problem ℝ n} {x y : Vec ℝ n} {i : Fin n}

theorem Feasible.inBox (hx : p.Feasible x) (hbox : ∀ i, p.lower i ≤ p.upper i) : p.InBox x :=
  fun i => ⟨Exact.le_iff.mp (hx.lower_le i (Exact.le_iff.mpr (hbox i))),
    Exact.le_iff.mp (hx.le_upper i (Exact.le_iff.mpr (hbox i)))⟩

/-- Away from a clamped coordinate the tangent only rises. -/
theorem tangent_nonpos_of_clamped (hi : i ∈ (p.split x).clamped) (hy : p.InBox y) :
    p.gradient x i * (x i - y i) ≤ 0 := by
  rcases isClamped_iff.mp (mem_clamped_iff.mp hi) with ⟨hx, hg⟩ | ⟨hx, hg⟩
  · rw [hx]
    exact mul_nonpos_of_nonneg_of_nonpos hg.le (sub_nonpos.mpr (hy i).1)
  · rw [hx]
    exact mul_nonpos_of_nonpos_of_nonneg hg.le (sub_nonneg.mpr (hy i).2)

/-- **The gap at a point is made on its free coordinates.** -/
theorem gap_le (hH : p.hessianMatrix.PosSemidef) (hy : p.InBox y) : p.value x - p.value y
      ≤ ∑ i ∈ (p.split x).free.toFinset, |p.gradient x i| * |y i - x i| := by
  have hsplit := (p.isSplit_split x).sum_eq fun i => p.gradient x i * (x i - y i)
  have hclamped : ∑ i ∈ (p.split x).clamped.toFinset, p.gradient x i * (x i - y i) ≤ 0 :=
    Finset.sum_nonpos fun i hi => tangent_nonpos_of_clamped (List.mem_toFinset.mp hi) hy
  have hfree : ∑ i ∈ (p.split x).free.toFinset, p.gradient x i * (x i - y i)
      ≤ ∑ i ∈ (p.split x).free.toFinset, |p.gradient x i| * |y i - x i| := by
    refine Finset.sum_le_sum ?_
    intro i _
    rw [abs_sub_comm, ← abs_mul]
    exact le_abs_self _
  calc p.value x - p.value y
      ≤ ∑ i, p.gradient x i * (x i - y i) := value_sub_le hH x y
    _ ≤ ∑ i ∈ (p.split x).free.toFinset, |p.gradient x i| * |y i - x i| := by linarith

end Problem

/-! ## The gradient -/

/-- A number that is `-(g + r x)` by a row of small unknowns bounds `g`. -/
theorem abs_le_of_row {m : ℕ} {row d : Fin m → ℝ} {g x r eps : ℝ} (hr : 0 ≤ r)
    (hd : ∀ j, |d j| < eps) (h : row ⬝ᵥ d = -(g + r * x)) :
    |g| ≤ r * |x| + eps * ∑ j, |row j| := by
  have hrow : |row ⬝ᵥ d| ≤ eps * ∑ j, |row j| := by
    calc |row ⬝ᵥ d| ≤ ∑ j, |row j * d j| := Finset.abs_sum_le_sum_abs _ _
      _ ≤ ∑ j, eps * |row j| := by
        refine Finset.sum_le_sum ?_
        intro j _
        rw [abs_mul, mul_comm]
        exact mul_le_mul_of_nonneg_right (hd j).le (abs_nonneg _)
      _ = eps * ∑ j, |row j| := (Finset.mul_sum _ _ _).symm
  have hg : g = -(row ⬝ᵥ d) - r * x := by linarith
  calc |g| = |-(row ⬝ᵥ d) - r * x| := by rw [← hg]
    _ ≤ |-(row ⬝ᵥ d)| + |r * x| := abs_sub _ _
    _ ≤ r * |x| + eps * ∑ j, |row j| := by
      rw [abs_neg, abs_mul, abs_of_nonneg hr]
      linarith

/-! ## The certificate -/

/-- What a converged solution says about the objective in the box. -/
structure Solution.Certificate (sol : Solution ℝ n) (p : Problem ℝ n) (s : Settings ℝ) :
    Prop where
  inBox : p.InBox sol.x
  /-- No point of the box has a much smaller objective. -/
  gap (y : Vec ℝ n) : p.InBox y → p.value sol.x - p.value y
    ≤ ∑ i ∈ sol.partition.free.toFinset, |p.gradient sol.x i| * |y i - sol.x i|
  /-- Where no coordinate is free, the minimum is reached. -/
  clamped : sol.status = .clamped →
    sol.partition.free = [] ∧ ∀ y, p.InBox y → p.value sol.x ≤ p.value y
  gradient : sol.status = .gradient → ∀ i, |p.gradient sol.x i| ≤ s.gradThreshold
  /-- A short Newton step bounds the gradient on the free coordinates. -/
  step : sol.status = .step →
    (∃ d : Fin sol.partition.free.length → ℝ, (∀ k, |d k| < s.gradThreshold) ∧
      p.freeSystem sol.partition s.regularization *ᵥ d
        = fun k => -(p.gradient sol.x (sol.partition.free.get k)
            + s.regularization * sol.x (sol.partition.free.get k))) ∧
    ∀ k, |p.gradient sol.x (sol.partition.free.get k)|
      ≤ s.regularization * |sol.x (sol.partition.free.get k)|
        + s.gradThreshold * ∑ l, |p.freeSystem sol.partition s.regularization k l|

/-- A point of the box that has converged, with its own split, makes a certificate. -/
theorem Solution.certificate_of_converged {sol : Solution ℝ n} {p : Problem ℝ n} {s : Settings ℝ}
    (hH : p.hessianMatrix.PosSemidef) (hr : 0 ≤ s.regularization) (hx : p.InBox sol.x)
    (hpart : sol.partition = p.split sol.x) (h : p.Converged s sol.x sol.status) :
    sol.Certificate p s := by
  obtain ⟨x, part, inverse, iterations, status⟩ := sol
  change part = p.split x at hpart
  change p.Converged s x status at h
  subst hpart
  refine ⟨hx, fun y => Problem.gap_le hH, ?_, ?_, ?_⟩
  · intro hstatus
    change status = .clamped at hstatus
    subst hstatus
    cases h with
    | clamped full =>
      refine ⟨full, ?_⟩
      intro y hy
      have hgap : p.value x - p.value y ≤ _ := Problem.gap_le hH hy
      rw [full, List.toFinset_nil, Finset.sum_empty] at hgap
      exact sub_nonpos.mp hgap
  · intro hstatus i
    change status = .gradient at hstatus
    subst hstatus
    cases h with
    | gradient flat => exact (Exact.abs_le_maxAbs _ i).trans (Exact.le_iff.mp flat)
  · intro hstatus
    change status = .step at hstatus
    subst hstatus
    cases h with
    | @step F factored small =>
      have hsystem := Problem.freeSystem_mulVec_direction hH.isHermitian factored
      have hsmall : ∀ k, |p.directionAt x F ((p.split x).free.get k)| < s.gradThreshold :=
        fun k => (Exact.abs_le_maxAbs _ _).trans_lt (Exact.lt_iff.mp small)
      exact ⟨⟨_, hsmall, hsystem⟩, fun k => abs_le_of_row hr hsmall (congrFun hsystem k)⟩

/-- **Every converged solution is a certificate.** -/
theorem Solver.certificate_of_returns {solver : Solver ℝ} {p : Problem ℝ solver.dimension}
    {start : Vec ℝ solver.dimension} {sol : Solution ℝ solver.dimension}
    (hH : p.hessianMatrix.PosSemidef) (hbox : ∀ i, p.lower i ≤ p.upper i)
    (hsettings : solver.settings.Admissible) (h : solver.Returns p start sol)
    (hstatus : sol.status ≠ .maxIterations) : sol.Certificate p solver.settings := by
  have hending := ending_of_returns h
  have hvalid : sol.Valid p := hending.valid
    (fun _ => ⟨Exact.isNaN_eq_false, Exact.isNaN_eq_false⟩) fun _ => Exact.isNaN_eq_false
  obtain ⟨hpart, hconverged⟩ := hending.converged hstatus
  exact Solution.certificate_of_converged hH (Exact.le_iff.mp hsettings.regularization_nonneg)
    (hvalid.feasible.inBox hbox) hpart hconverged

/-- One iteration on the corner, with a tolerance that its first Newton step meets. -/
noncomputable def Settings.lenient : Settings ℝ := { quarter 1 with gradThreshold := 1 + 1 }

theorem Settings.admissible_lenient : lenient.Admissible :=
  { admissible_quarter 1 with gradThreshold_nonneg := Exact.le_iff.mpr (add_nonneg zero_le_one zero_le_one) }

/-- Without tolerance, the run on the corner ends on a flat gradient in both coordinates. With the
lenient settings it ends at its start, where one coordinate is free and the gradient not flat. -/
theorem Solver.certificate_corner :
    (∃ sol : Solution ℝ 2,
      Solver.Returns ⟨2, Settings.quarter 2, .fresh 2 none⟩ Problem.corner (Vec.zero 2) sol ∧
      sol.status = .gradient ∧ sol.partition.free = [0, 1] ∧
      sol.Certificate Problem.corner (Settings.quarter 2)) ∧
    ∃ sol : Solution ℝ 2,
      Solver.Returns ⟨2, Settings.lenient, .fresh 2 none⟩ Problem.corner (Vec.zero 2) sol ∧
      sol.status = .step ∧ sol.partition.free = [1] ∧
      sol.Certificate Problem.corner Settings.lenient := by
  constructor
  · obtain ⟨F, hF⟩ := Problem.outcome_bend_two 5
    have hreturns : Solver.Returns ⟨2, Settings.quarter 2, .fresh 2 none⟩ Problem.corner
        (Vec.zero 2) _ :=
      returns_iff.mpr hF
    exact ⟨_, hreturns, rfl, Problem.free_cornerMinimum,
      certificate_of_returns Problem.posDef_corner.posSemidef Problem.lower_le_upper_corner
        (Settings.admissible_quarter 2) hreturns nofun⟩
  · obtain ⟨F, hF⟩ := Problem.exists_factorizeAt?_corner (m := 1) (Vec.zero 2)
    have hgoes : Problem.corner.stopStatus? Settings.lenient (Vec.zero 2) = none :=
      Problem.stopStatus?_corner (by norm_num [Settings.lenient])
    have hsmall : Scalar.lt (Problem.corner.directionAt (Vec.zero 2) F).maxAbs
        Settings.lenient.gradThreshold := by
      rw [Problem.directionAt_corner hF, Exact.lt_iff]
      refine lt_of_le_of_lt (Exact.maxAbs_le zero_le_one ?_) (lt_add_one 1)
      intro i
      rw [Problem.entry_cornerMinimum]
      fin_cases i <;> norm_num
    have hreturns : Solver.Returns ⟨2, Settings.lenient, .fresh 2 none⟩ Problem.corner
        (Vec.zero 2) _ :=
      returns_iff.mpr (Problem.outcome_of_short Problem.project_corner one_ne_zero hgoes hF hsmall)
    exact ⟨_, hreturns, rfl, Problem.free_corner,
      certificate_of_returns Problem.posDef_corner.posSemidef Problem.lower_le_upper_corner
        Settings.admissible_lenient hreturns nofun⟩

end ProjectedNewton
