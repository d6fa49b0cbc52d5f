import ProjectedNewton.Proofs.Exact.Termination

/-!
# Separable objectives

If the Hessian is diagonal with positive entries `h i`, then the objective is a sum of parabolas in
one coordinate each, with vertex `-q i / h i`, and its minimum over the box is the point of the box
nearest to the vertex. A single line search finds it from anywhere: the Newton direction leads every
free coordinate to its vertex, the projection cuts the full step off at the bounds, and a clamped
coordinate is at its minimum already. The full step is accepted, since the objective decreases by at
least one half of what is predicted.

* `Problem.Separable.landing_eq`: every line search ends at the minimum.
* `Problem.Separable.abs_sub_le_of_converged`: where a run stops by its tolerance, the minimum is as
  near.
* `Solver.exists_returns_of_separable` is the main result.
-/

namespace ProjectedNewton

open Matrix

variable {n : ℕ}

/-- The objective is a sum of parabolas with the second derivatives `h`, over a box that is not
empty. -/
structure Problem.Separable (p : Problem ℝ n) (h : Vec ℝ n) : Prop where
  hessian : p.hessian = Mat.diagonal h
  pos (i : Fin n) : 0 < h i
  ordered (i : Fin n) : p.lower i ≤ p.upper i

namespace Problem

/-- The vertices of the parabolas. -/
noncomputable def vertex (p : Problem ℝ n) (h : Vec ℝ n) : Vec ℝ n :=
  Vector.ofFn fun i => -p.linear i / h i

/-- The point of the box nearest to the vertices. -/
noncomputable def nearest (p : Problem ℝ n) (h : Vec ℝ n) : Vec ℝ n := p.project (p.vertex h)

variable {p : Problem ℝ n} {h : Vec ℝ n} {s : Settings ℝ} {x y : Vec ℝ n} {i : Fin n}
  {F : Factorization ℝ (p.split x).free.length}

theorem inBox_project (hbox : ∀ i, p.lower i ≤ p.upper i) (x : Vec ℝ n) :
    p.InBox (p.project x) :=
  (feasible_project (fun _ => ⟨Exact.isNaN_eq_false, Exact.isNaN_eq_false⟩)
    fun _ => Exact.isNaN_eq_false).inBox hbox

/-- No step from the nearest point into the box leads towards the vertices of the parabolas. -/
theorem vertex_sub_mul_nonpos (h : Vec ℝ n) (hy : p.InBox y) (i : Fin n) :
    (p.vertex h i - p.nearest h i) * (y i - p.nearest h i) ≤ 0 := by
  unfold nearest
  rw [entry_project]
  exact Exact.sub_clamp_mul_nonpos (hy i).1 (hy i).2

namespace Separable

variable (hp : p.Separable h)
include hp

/-! ## The objective -/

theorem hessianMatrix_eq : p.hessianMatrix = Matrix.diagonal h.entry := by
  unfold hessianMatrix
  rw [hp.hessian, Mat.toMatrix_diagonal]

theorem posDef : p.hessianMatrix.PosDef := by
  rw [hp.hessianMatrix_eq]
  exact PosDef.diagonal hp.pos

theorem gradient_apply (x : Vec ℝ n) (i : Fin n) :
    p.gradient x i = h i * (x i - p.vertex h i) := by
  have hne : h i ≠ 0 := (hp.pos i).ne'
  unfold vertex
  rw [gradient_eq, hp.hessianMatrix_eq, Pi.add_apply, mulVec_diagonal, Vec.entry_ofFn]
  field_simp
  ring

/-- **The nearest point is a minimum over the box.** -/
theorem value_nearest_le (hy : p.InBox y) : p.value (p.nearest h) ≤ p.value y := by
  have htangent := value_sub_le hp.posDef.posSemidef (p.nearest h) y
  have hfalls : (p.gradient (p.nearest h)).entry ⬝ᵥ ((p.nearest h).entry - y.entry) ≤ 0 := by
    refine Finset.sum_nonpos ?_
    intro i _
    change p.gradient (p.nearest h) i * (p.nearest h i - y i) ≤ 0
    have hterm := mul_nonpos_of_nonneg_of_nonpos (hp.pos i).le (vertex_sub_mul_nonpos h hy i)
    rw [hp.gradient_apply]
    linarith
  linarith

/-! ## The step -/

/-- A clamped coordinate is at its minimum. -/
theorem nearest_of_clamped (hi : i ∈ (p.split x).clamped) : p.nearest h i = x i := by
  have hpos := hp.pos i
  unfold nearest
  rw [entry_project, Exact.clamp_eq]
  rcases isClamped_iff.mp (mem_clamped_iff.mp hi) with ⟨hx, hg⟩ | ⟨hx, hg⟩
  · rw [hp.gradient_apply, hx] at hg
    have hlow : p.vertex h i ≤ p.lower i := (sub_pos.mp (pos_of_mul_pos_right hg hpos.le)).le
    rw [max_eq_right hlow, min_eq_left (hp.ordered i), hx]
  · rw [hp.gradient_apply, hx] at hg
    have hup : p.upper i ≤ p.vertex h i := (sub_neg.mp (neg_of_mul_neg_right hg hpos.le)).le
    rw [min_eq_right (hup.trans (le_max_left _ _)), hx]

section Newton

variable (hr : s.regularization = 0) (hF : p.factorizeAt? s x = some F)
include hr hF

/-- The Newton direction leads a free coordinate to its vertex. -/
theorem directionAt_free (hi : i ∈ (p.split x).free) :
    p.directionAt x F i = p.vertex h i - x i := by
  have hequation := mulVec_direction hp.posDef.isHermitian hF hi
  rw [hr, zero_mul, zero_mul, add_zero, add_zero, hp.hessianMatrix_eq, mulVec_diagonal,
    hp.gradient_apply, ← mul_neg, neg_sub] at hequation
  exact mul_left_cancel₀ (hp.pos i).ne' hequation

/-- **The full step ends at the nearest point.** -/
theorem candidate_one (hx : p.project x = x) : (p.search s x F).candidate 1 = p.nearest h := by
  refine Vec.ext_entry ?_
  intro i
  rcases (p.isSplit_split x).exhaustive i with hi | hi
  · have htarget : (((p.directionAt x F).scale 1).add x) i = p.vertex h i := by
      rw [Vec.entry_add, Vec.entry_scale, hp.directionAt_free hr hF hi]
      ring
    unfold LineSearch.candidate nearest
    rw [entry_project, entry_project]
    exact congrArg (Scalar.clamp · (p.lower i) (p.upper i)) htarget
  · rw [candidate_of_clamped hx hi, hp.nearest_of_clamped hi]

/-- The full step is accepted, if there is something to decrease. -/
theorem accepts_one (ht : s.acceptStepThreshold < 1 / 2) (hx : p.project x = x)
    (hne : x ≠ p.nearest h) : (p.search s x F).accepts 1 := by
  have hbox : p.InBox x := hx ▸ inBox_project hp.ordered x
  have hcandidate := hp.candidate_one hr hF hx
  have hbetween (i : Fin n) := vertex_sub_mul_nonpos h hbox i
  generalize p.nearest h = c at hne hcandidate hbetween
  have hstep : c.entry - x.entry ≠ 0 := by
    intro hzero
    exact hne (Vec.ext_entry (congrFun (sub_eq_zero.mp hzero).symm))
  have hcurvature := hp.posDef.dotProduct_mulVec_pos hstep
  rw [star_trivial] at hcurvature
  -- The curvature along the step is at most what is predicted, coordinate by coordinate.
  have hshare : (c.entry - x.entry) ⬝ᵥ p.hessianMatrix *ᵥ (c.entry - x.entry)
      ≤ -((p.gradient x).entry ⬝ᵥ (c.entry - x.entry)) := by
    unfold dotProduct
    rw [← Finset.sum_neg_distrib]
    refine Finset.sum_le_sum ?_
    intro i _
    have hterm := mul_nonpos_of_nonneg_of_nonpos (hp.pos i).le (hbetween i)
    rw [hp.hessianMatrix_eq, mulVec_diagonal, hp.gradient_apply, Pi.sub_apply]
    linarith
  have hexpansion := value_sub hp.posDef.isHermitian x c
  have hpredicted : Vec.dot (p.gradient x) (x.sub c)
      = -((p.gradient x).entry ⬝ᵥ (c.entry - x.entry)) := by
    rw [Exact.dot_eq, Exact.sub_eq, ← dotProduct_neg, neg_sub]
  refine Exact.lt_iff.mpr ?_
  show s.acceptStepThreshold * Vec.dot (p.gradient x) (x.sub ((p.search s x F).candidate 1))
    < p.value x - p.value ((p.search s x F).candidate 1)
  rw [hcandidate, hpredicted]
  have hhalf := mul_lt_mul_of_pos_right ht (hcurvature.trans_le hshare)
  linarith

end Newton

/-- **Every line search from a point of the box ends at the nearest point.** -/
theorem landing_eq (hs : s.Admissible) (hr : s.regularization = 0)
    (ht : s.acceptStepThreshold < 1 / 2) (hF : p.factorizeAt? s x = some F)
    (hx : p.project x = x) : (p.search s x F).landing = p.nearest h := by
  by_cases hne : x = p.nearest h
  · unfold LineSearch.landing
    cases ha : (p.search s x F).acceptedLength with
    | none => exact hne
    | some a =>
      -- Nothing can be accepted at the minimum.
      have hdecreases := value_lt_of_accepts hp.posDef.isHermitian hs hx
        (curved_of_posSemidef hp.posDef.posSemidef x) (LineSearch.accepts_of_acceptedLength ha)
      have hleast : p.value (p.nearest h) ≤ p.value ((p.search s x F).candidate a) :=
        hp.value_nearest_le (inBox_project hp.ordered _)
      rw [← hne] at hleast
      exact absurd hdecreases (not_lt.mpr hleast)
  · rw [LineSearch.landing_of_accepts_one (hp.accepts_one hr hF ht hx hne),
      hp.candidate_one hr hF hx]

/-! ## Convergence -/

/-- **Where a run stops, it is within the tolerance of the nearest point.** -/
theorem abs_sub_le_of_converged {status : Status} (hr : s.regularization = 0)
    (heps : 0 ≤ s.gradThreshold) (hx : p.project x = x) (hstop : p.Converged s x status)
    (i : Fin n) :
    |x i - p.nearest h i| ≤ max s.gradThreshold (s.gradThreshold / h i) := by
  have hbox : p.InBox x := hx ▸ inBox_project hp.ordered x
  have hclamped (hi : i ∈ (p.split x).clamped) :
      |x i - p.nearest h i| ≤ max s.gradThreshold (s.gradThreshold / h i) := by
    rw [hp.nearest_of_clamped hi, sub_self, abs_zero]
    exact heps.trans (le_max_left _ _)
  have hnearer : |x i - p.nearest h i| ≤ |x i - p.vertex h i| := by
    unfold nearest
    rw [entry_project]
    exact Exact.abs_sub_clamp_le (hbox i).1 (hbox i).2
  cases hstop with
  | gradient flat =>
    have hgradient := (Exact.abs_le_maxAbs (p.gradient x) i).trans (Exact.le_iff.mp flat)
    rw [hp.gradient_apply, abs_mul, abs_of_pos (hp.pos i), mul_comm] at hgradient
    exact hnearer.trans (((le_div_iff₀ (hp.pos i)).mpr hgradient).trans (le_max_right _ _))
  | clamped full =>
    rcases (p.isSplit_split x).exhaustive i with hi | hi
    · rw [full] at hi
      exact absurd hi List.not_mem_nil
    · exact hclamped hi
  | @step F factored small =>
    rcases (p.isSplit_split x).exhaustive i with hi | hi
    · have hdirection := (Exact.abs_le_maxAbs (p.directionAt x F) i).trans
        (Exact.lt_iff.mp small).le
      rw [hp.directionAt_free hr factored hi, abs_sub_comm] at hdirection
      exact hnearer.trans (hdirection.trans (le_max_left _ _))
    · exact hclamped hi

/-- **What a run with at least one iteration returns is within the tolerance of the nearest
point.** -/
theorem abs_sub_le_of_ending {start : Vec ℝ n} {sol : Solution ℝ n} (hs : s.Admissible)
    (hr : s.regularization = 0) (ht : s.acceptStepThreshold < 1 / 2) (hm : s.maxIterations ≠ 0)
    (hend : Ending (Workspace.fresh n) s p start sol) (i : Fin n) :
    |sol.x i - p.nearest h i| ≤ max s.gradThreshold (s.gradThreshold / h i) := by
  have heps : 0 ≤ s.gradThreshold := Exact.le_iff.mp hs.gradThreshold_nonneg
  by_cases hstatus : sol.status = .maxIterations
  · obtain ⟨k, -, x, F, hx, -, hF, hlanding, -⟩ := hend.searched hm hstatus
    rw [hlanding, hp.landing_eq hs hr ht hF (project_of_reaches hx), sub_self, abs_zero]
    exact heps.trans (le_max_left _ _)
  · obtain ⟨k, -, hreached, -⟩ := hend.last
    exact hp.abs_sub_le_of_converged hr heps (project_of_reaches hreached)
      (hend.converged hstatus).2 i

end Separable

end Problem

/-- **Separable problems are solved in closed form**, up to the tolerance and from any start: every
coordinate of the returned point is near to `-q i / h i`, moved between its bounds. Without
tolerance it is that number. -/
theorem Solver.exists_returns_of_separable (solver : Solver ℝ) {p : Problem ℝ solver.dimension}
    {h : Vec ℝ solver.dimension} (hp : p.Separable h) (hs : solver.settings.Admissible)
    (hr : solver.settings.regularization = 0) (ht : solver.settings.acceptStepThreshold < 1 / 2)
    (hm : 1 ≤ solver.settings.maxIterations) (start : Vec ℝ solver.dimension) :
    ∃ sol, solver.Returns p start sol ∧
      (∀ i, |sol.x i - min (max (-p.linear i / h i) (p.lower i)) (p.upper i)|
        ≤ max solver.settings.gradThreshold (solver.settings.gradThreshold / h i)) ∧
      (solver.settings.gradThreshold = 0 →
        ∀ i, sol.x i = min (max (-p.linear i / h i) (p.lower i)) (p.upper i)) := by
  have hnearest (i : Fin solver.dimension) :
      p.nearest h i = min (max (-p.linear i / h i) (p.lower i)) (p.upper i) := by
    unfold Problem.nearest Problem.vertex
    rw [Problem.entry_project, Exact.clamp_eq, Vec.entry_ofFn]
  obtain ⟨sol, hsol⟩ := Problem.exists_solution_of_posDef
    (Problem.posDef_shift hp.posDef hr.ge) start
  have hreturns : solver.Returns p start sol := returns_iff.mpr hsol
  have hnear (i : Fin solver.dimension) :=
    hp.abs_sub_le_of_ending hs hr ht (Nat.one_le_iff_ne_zero.mp hm) (ending_of_returns hreturns) i
  refine ⟨sol, hreturns, ?_, ?_⟩
  · intro i
    rw [← hnearest]
    exact hnear i
  · intro hzero i
    have hexact := hnear i
    rw [hzero, zero_div, max_self] at hexact
    rw [← hnearest]
    exact sub_eq_zero.mp (abs_nonpos_iff.mp hexact)

/-- Two parabolas. The first one has its vertex above the bounds, the second one below. -/
noncomputable def Problem.parabolas : Problem ℝ 2 where
  hessian := Mat.diagonal (Vec.ofInts ![1, 2])
  linear := Vec.ofInts ![-3, 2]
  lower := Vec.ofInts ![0, 0]
  upper := Vec.ofInts ![2, 1]

theorem Problem.separable_parabolas : parabolas.Separable (Vec.ofInts ![1, 2]) where
  hessian := rfl
  pos := by
    intro i
    rw [Vec.entry_ofInts]
    fin_cases i <;> simp
  ordered := by
    intro i
    show Vec.ofInts ![0, 0] i ≤ Vec.ofInts ![2, 1] i
    rw [Vec.entry_ofInts, Vec.entry_ofInts]
    fin_cases i <;> simp

/-- From the wrong ends, one iteration leads both coordinates to the right ones. -/
theorem Solver.exists_returns_parabolas : ∃ sol,
    Solver.Returns ⟨2, Settings.quarter 1, .fresh 2 none⟩ Problem.parabolas (Vec.ofInts ![0, 1])
      sol ∧ sol.x 0 = 2 ∧ sol.x 1 = 0 := by
  obtain ⟨sol, hreturns, -, hexact⟩ := exists_returns_of_separable
    ⟨2, Settings.quarter 1, .fresh 2 none⟩ Problem.separable_parabolas
    (Settings.admissible_quarter 1) rfl (by norm_num [Settings.quarter]) le_rfl
    (Vec.ofInts ![0, 1])
  have hlinear : Problem.parabolas.linear.entry = ![-3, 2] := by
    exact_mod_cast Vec.entry_ofInts_pair (-3) 2
  have hlower : Problem.parabolas.lower.entry = ![0, 0] := by
    exact_mod_cast Vec.entry_ofInts_pair 0 0
  have hupper : Problem.parabolas.upper.entry = ![2, 1] := by
    exact_mod_cast Vec.entry_ofInts_pair 2 1
  have hcurvature : (Vec.ofInts ![1, 2] : Vec ℝ 2).entry = ![1, 2] := by
    exact_mod_cast Vec.entry_ofInts_pair 1 2
  have hentry := hexact rfl
  rw [hlinear, hlower, hupper, hcurvature] at hentry
  refine ⟨sol, hreturns, (hentry 0).trans ?_, (hentry 1).trans ?_⟩
  · norm_num
  · norm_num

end ProjectedNewton
