import ProjectedNewton.Proofs.Exact.Termination

/-!
# Runs that meet no limits

If no coordinate is ever clamped and the projection leaves the Newton steps as they are, the box
does not matter. Without regularization and tolerance, a run on a strictly convex objective then
ends where the gradient is zero, after one step at the latest. All coordinates are free in all
iterations, so the inverse that is returned belongs to the returned partition.

* `Settings.Sharp` and `Problem.Interior` are the assumptions on the settings and on the run.
* `Problem.Interior.gradient_eq_zero` and `Problem.Interior.settled` say what is returned.
* `Problem.interior_of_inside`: a single iteration from the inside of the box is such a run if the
  gradient is zero somewhere in the box.
-/

namespace ProjectedNewton

open Matrix

variable {n : ℕ}

/-- At least one iteration, without tolerance and regularization, and full Newton steps that stay
in the box are accepted. -/
structure Settings.Sharp (s : Settings ℝ) : Prop where
  maxIterations : 1 ≤ s.maxIterations
  acceptStepThreshold : s.acceptStepThreshold < 1 / 2
  gradThreshold : s.gradThreshold = 0
  regularization : s.regularization = 0

theorem Settings.sharp_quarter : (quarter 1).Sharp where
  maxIterations := le_rfl
  acceptStepThreshold := by norm_num [quarter]
  gradThreshold := rfl
  regularization := rfl

namespace Problem

/-- The run from `start` meets no limits. Its start may lie outside of the box: what counts are the
iterations. -/
structure Interior (p : Problem ℝ n) (s : Settings ℝ) (start : Vec ℝ n) : Prop where
  /-- No iteration has a clamped coordinate. -/
  unclamped {k : ℕ} {x : Vec ℝ n} : k < s.maxIterations → p.Reaches s start k x →
    (p.split x).clamped = []
  /-- The projection does not change the full step, which a line search tries first. -/
  unmoved {k : ℕ} {x : Vec ℝ n} {F : Factorization ℝ (p.split x).free.length} :
    k < s.maxIterations → p.Reaches s start k x → p.Unconverged s x →
    p.factorizeAt? s x = some F →
    (p.search s x F).candidate 1 = ((p.directionAt x F).scale 1).add x

variable {p : Problem ℝ n} {s : Settings ℝ} {start x : Vec ℝ n} {k : ℕ} {sol : Solution ℝ n}

/-- A flat gradient ends a run, whatever the tolerance. -/
theorem Unconverged.gradient_ne_zero (heps : 0 ≤ s.gradThreshold) (h : p.Unconverged s x) :
    (p.gradient x).entry ≠ 0 := by
  intro hzero
  refine h .gradient (.gradient (Exact.le_iff.mpr (Exact.maxAbs_le heps ?_)))
  intro i
  rw [hzero, Pi.zero_apply, abs_zero]
  exact heps

namespace Interior

variable (h : p.Interior s start)
include h

theorem free_eq (hk : k < s.maxIterations) (hx : p.Reaches s start k x) :
    (p.split x).free = List.finRange n :=
  free_of_unclamped (h.unclamped hk hx)

/-- All coordinates are returned as free. -/
theorem free_of_ending (hs : s.Sharp) (hend : Ending (Workspace.fresh n) s p start sol) :
    sol.partition.free = List.finRange n := by
  obtain ⟨k, hk, x, hx, hpart⟩ :=
    hend.exists_reaches_split (Nat.one_le_iff_ne_zero.mp hs.maxIterations)
  rw [hpart, h.free_eq hk hx]

/-- **The free coordinates do not change in the last iteration.** -/
theorem settled (hs : s.Sharp) (hend : Ending (Workspace.fresh n) s p start sol) :
    p.Settled s start sol := by
  intro k y hcount _ hy
  have hle := hend.iterations_le
  rw [h.free_eq (by omega) hy, h.free_of_ending hs hend]

/-- From where the gradient is not zero, one step leads to where it is. -/
theorem gradient_landing (hH : p.hessianMatrix.PosDef) (hs : s.Sharp) (hk : k < s.maxIterations)
    (hx : p.Reaches s start k x) (hgoes : p.Unconverged s x)
    {F : Factorization ℝ (p.split x).free.length} (hF : p.factorizeAt? s x = some F) :
    (p.gradient (p.search s x F).landing).entry = 0 := by
  have hr := hs.regularization
  have hgradient : (p.gradient (p.newtonPoint x)).entry = 0 := by
    funext i
    refine gradient_newtonPoint hH.isHermitian hr hF ?_
    rw [h.free_eq hk hx]
    exact List.mem_finRange i
  have hd : p.directionAt x F ≠ Vec.zero n := by
    intro hzero
    -- Without a direction the Newton point is `x` itself, and the run would have stopped there.
    have hstays : p.newtonPoint x = x := by
      refine Vec.ext_entry ?_
      intro i
      rw [newtonPoint_eq hH.isHermitian hr hF, hzero, Pi.add_apply, Vec.entry_zero, add_zero]
    rw [hstays] at hgradient
    exact hgoes.gradient_ne_zero hs.gradThreshold.ge hgradient
  have hprojected : p.project (p.newtonPoint x) = p.newtonPoint x := by
    rw [← full_step_eq hH.isHermitian hr hF]
    exact h.unmoved hk hx hgoes hF
  rw [landing_of_project hH.isHermitian hr hF hs.acceptStepThreshold hd hprojected, hgradient]

/-- **The gradient is zero at the returned point.** -/
theorem gradient_eq_zero (hH : p.hessianMatrix.PosDef) (hs : s.Sharp)
    (hend : Ending (Workspace.fresh n) s p start sol) : (p.gradient sol.x).entry = 0 := by
  by_cases hstatus : sol.status = .maxIterations
  · obtain ⟨k, hk, x, F, hx, hgoes, hF, hlanding, -⟩ :=
      hend.searched (Nat.one_le_iff_ne_zero.mp hs.maxIterations) hstatus
    rw [hlanding, h.gradient_landing hH hs hk hx hgoes hF]
  · obtain ⟨hpart, hconverged⟩ := hend.converged hstatus
    generalize sol.status = status at hconverged
    funext i
    cases hconverged with
    | gradient flat =>
      rw [Exact.le_iff, hs.gradThreshold] at flat
      exact abs_nonpos_iff.mp ((Exact.abs_le_maxAbs (p.gradient sol.x) i).trans flat)
    | clamped full =>
      -- All coordinates are free and none is, so there are none.
      have hmem := List.mem_finRange i
      rw [← h.free_of_ending hs hend, hpart, full] at hmem
      exact absurd hmem List.not_mem_nil
    | @step F factored small =>
      rw [Exact.lt_iff, hs.gradThreshold] at small
      have hnonneg := (abs_nonneg _).trans (Exact.abs_le_maxAbs (p.directionAt sol.x F) i)
      exact absurd small (not_lt.mpr hnonneg)

end Interior

/-! ## A single iteration -/

/-- There is at most one point where the gradient is zero. -/
theorem eq_of_gradient_eq_zero {y : Vec ℝ n} (hH : p.hessianMatrix.PosDef)
    (hx : (p.gradient x).entry = 0) (hy : (p.gradient y).entry = 0) : x = y := by
  rw [gradient_eq] at hx hy
  have heq := add_right_cancel (hx.trans hy.symm)
  exact Vec.ext_entry (congrFun (mulVec_injective_of_isUnit hH.isUnit heq))

/-- **A single iteration from the inside of the box meets no limits**, if there is a point in the
box where the gradient is zero. -/
theorem interior_of_inside {z : Vec ℝ n} (hH : p.hessianMatrix.PosDef) (hm : s.maxIterations = 1)
    (hr : s.regularization = 0) (hstart : ∀ i, p.lower i < start i ∧ start i < p.upper i)
    (hz : (p.gradient z).entry = 0) (hbox : p.InBox z) : p.Interior s start := by
  have hproject : p.project start = start :=
    project_of_inBox fun i => ⟨(hstart i).1.le, (hstart i).2.le⟩
  have hclamped : (p.split start).clamped = [] := by
    refine List.eq_nil_iff_forall_not_mem.mpr ?_
    intro i hi
    rcases isClamped_iff.mp (mem_clamped_iff.mp hi) with ⟨hx, -⟩ | ⟨hx, -⟩
    · exact (hstart i).1.ne' hx
    · exact (hstart i).2.ne hx
  constructor
  · intro k x hk hx
    obtain rfl : k = 0 := by omega
    rw [reaches_zero.mp hx, hproject]
    exact hclamped
  · intro k x F hk hx _ hF
    obtain rfl : k = 0 := by omega
    obtain rfl : x = start := (reaches_zero.mp hx).trans hproject
    have hgradient : (p.gradient (p.newtonPoint x)).entry = 0 := by
      funext i
      refine gradient_newtonPoint hH.isHermitian hr hF ?_
      rw [free_of_unclamped hclamped]
      exact List.mem_finRange i
    have hstep := full_step_eq hH.isHermitian hr hF
    rw [eq_of_gradient_eq_zero hH hgradient hz] at hstep
    rw [hstep]
    exact (congrArg p.project hstep).trans (project_of_inBox hbox)

end Problem

end ProjectedNewton
