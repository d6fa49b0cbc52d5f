import ProjectedNewton.Proofs.Exact.Certificate
import ProjectedNewton.Proofs.Exact.Descent
import ProjectedNewton.Proofs.Run.Provenance

/-!
# The last steps of a run

Once a run works with the right clamped coordinates, it ends within two iterations. The full Newton
step leads to the point that is stationary in the free coordinates (`Problem.newtonPoint`). If that
point lies in the box, the line search accepts it, and if its free coordinates are those of the
iterate before, nothing is left to do there: either the whole gradient is within the tolerance, or
only the clamped coordinates have one, and then the next Newton step has length zero.

* `Problem.newtonPoint_eq`: the Newton direction leads to the Newton point, without regularization.
* `Problem.landing_of_project`: the line search ends there if it lies in the box.
* `Problem.value_lt_of_stationary`: such a point is the only minimum of a strictly convex objective.
* `Solver.finishes_of_inBox` is the main result.
-/

namespace ProjectedNewton

open Matrix

variable {n : ℕ}

namespace Problem

/-! ## The Newton point -/

/-- The free coordinates `-H_ff⁻¹ (q_f + H_fc x_c)` in which the objective is stationary while the
clamped ones stay where they are. -/
noncomputable def freeMinimum (p : Problem ℝ n) (part : Partition n) (x : Vec ℝ n) :
    Vec ℝ part.free.length :=
  Vector.ofFn (-((p.freeHessian part).toMatrix⁻¹ *ᵥ ((p.linear.pick part.free).entry
    + (p.crossHessian part).toMatrix *ᵥ (x.pick part.clamped).entry)))

/-- The point with these free coordinates and the clamped ones of `x`. -/
noncomputable def newtonPoint (p : Problem ℝ n) (x : Vec ℝ n) : Vec ℝ n :=
  (Vec.spread (p.split x).free (p.freeMinimum (p.split x) x)).add
    (Vec.spread (p.split x).clamped (x.pick (p.split x).clamped))

variable {p : Problem ℝ n} {s : Settings ℝ} {x y z : Vec ℝ n} {i : Fin n}
  {F : Factorization ℝ (p.split x).free.length}

theorem newtonPoint_of_clamped (hi : i ∈ (p.split x).clamped) : p.newtonPoint x i = x i := by
  have hsplit := p.isSplit_split x
  obtain ⟨k, rfl⟩ := List.get_of_mem hi
  unfold newtonPoint
  rw [Vec.entry_add, Vec.spread_of_not_mem fun hfree => hsplit.disjoint _ hfree hi,
    Vec.spread_get hsplit.nodup_clamped, zero_add, Vec.entry_pick]

theorem newtonPoint_free (k : Fin (p.split x).free.length) :
    p.newtonPoint x ((p.split x).free.get k) = p.freeMinimum (p.split x) x k := by
  have hsplit := p.isSplit_split x
  unfold newtonPoint
  rw [Vec.entry_add, Vec.spread_get hsplit.nodup_free,
    Vec.spread_of_not_mem fun hclamped => hsplit.disjoint _ (List.get_mem _ k) hclamped, add_zero]

/-- Where a point of the box is projected to. -/
theorem project_of_inBox (h : p.InBox x) : p.project x = x := by
  refine Vec.ext_entry ?_
  intro i
  rw [entry_project, Exact.clamp_eq, max_eq_left (h i).1, min_eq_left (h i).2]

section Newton

variable (hH : p.hessianMatrix.IsSymm) (hr : s.regularization = 0)
  (hF : p.factorizeAt? s x = some F)
include hH hr hF

/-- The system of the free coordinates is solved by their minimum. -/
theorem newtonTarget_eq :
    (p.newtonTarget (p.split x) F x).entry = (p.freeMinimum (p.split x) x).entry := by
  have hside : (p.newtonRightSide (p.split x) x).entry = -((p.linear.pick (p.split x).free).entry
      + (p.crossHessian (p.split x)).toMatrix *ᵥ (x.pick (p.split x).clamped).entry) := by
    unfold newtonRightSide
    rw [Exact.sub_eq, Exact.mulVec_eq, neg_add, sub_eq_add_neg]
    congr 1
    exact funext (Vec.entry_neg _)
  unfold newtonTarget freeMinimum
  rw [Factorization.solve_eq (isSymm_freeHessian hH _) hF, toMatrix_shift, hr, zero_smul,
    add_zero, hside, mulVec_neg]
  exact (funext (Vec.entry_ofFn _)).symm

/-- **The Newton direction leads to the Newton point.** -/
theorem newtonPoint_eq :
    (p.newtonPoint x).entry = x.entry + (p.directionAt x F).entry := by
  have hsplit := p.isSplit_split x
  funext i
  rw [Pi.add_apply]
  rcases hsplit.exhaustive i with hfree | hclamped
  · obtain ⟨k, rfl⟩ := List.get_of_mem hfree
    rw [newtonPoint_free, ← newtonTarget_eq hH hr hF]
    unfold directionAt newtonDirection
    rw [Vec.spread_get hsplit.nodup_free, Vec.entry_sub, Vec.entry_pick]
    ring
  · rw [newtonPoint_of_clamped hclamped, directionAt_of_clamped hclamped, add_zero]

theorem gradient_newtonPoint (hi : i ∈ (p.split x).free) :
    p.gradient (p.newtonPoint x) i = 0 := by
  rw [gradient_of_full_step hH hF (newtonPoint_eq hH hr hF) hi, hr, zero_mul, neg_zero]

/-- The full step of the line search leads there. -/
theorem full_step_eq : ((p.directionAt x F).scale 1).add x = p.newtonPoint x := by
  refine Vec.ext_entry ?_
  intro i
  rw [newtonPoint_eq hH hr hF, Pi.add_apply, Vec.entry_add, Vec.entry_scale, mul_one, add_comm]

/-- **The line search ends at the Newton point**, if the projection leaves it where it is. -/
theorem landing_of_project (hs : s.acceptStepThreshold < 1 / 2)
    (hd : p.directionAt x F ≠ Vec.zero n) (hz : p.project (p.newtonPoint x) = p.newtonPoint x) :
    (p.search s x F).landing = p.newtonPoint x := by
  have hcandidate : (p.search s x F).candidate 1 = p.newtonPoint x := by
    unfold LineSearch.candidate
    exact (congrArg p.project (full_step_eq hH hr hF)).trans hz
  have haccepts : (p.search s x F).accepts 1 := by
    refine accepts_one_of_full_step hH hF hr hs hd ?_
    rw [hcandidate, newtonPoint_eq hH hr hF]
  rw [LineSearch.landing_of_accepts_one haccepts, hcandidate]

/-- The Newton step from a point that is stationary in its free coordinates has length zero. -/
theorem directionAt_of_stationary (hfree : ∀ i ∈ (p.split x).free, p.gradient x i = 0) :
    p.directionAt x F = Vec.zero n := by
  by_contra hd
  have hcurvature := dotProduct_mulVec_direction hH hF hr
  have hpos := dotProduct_mulVec_direction_pos hH hF hr hd
  have hflat : (p.gradient x).entry ⬝ᵥ (p.directionAt x F).entry = 0 := by
    refine Finset.sum_eq_zero ?_
    intro i _
    rcases (p.isSplit_split x).exhaustive i with hi | hi
    · exact mul_eq_zero_of_left (hfree i hi) _
    · exact mul_eq_zero_of_right _ (directionAt_of_clamped hi)
  rw [hcurvature, hflat, neg_zero] at hpos
  exact lt_irrefl 0 hpos

end Newton

/-- Without clamped coordinates the Newton point is where the whole gradient is zero. -/
theorem newtonPoint_of_unclamped (hH : p.hessianMatrix.PosDef) (hr : s.regularization = 0)
    (hF : p.factorizeAt? s x = some F) (h : (p.split x).clamped = []) :
    (p.newtonPoint x).entry = -(p.hessianMatrix⁻¹ *ᵥ p.linear.entry) := by
  have hdet : IsUnit p.hessianMatrix.det := (isUnit_iff_isUnit_det _).mp hH.isUnit
  have hgradient : (p.gradient (p.newtonPoint x)).entry = 0 := by
    funext i
    rcases (p.isSplit_split x).exhaustive i with hi | hi
    · exact gradient_newtonPoint hH.isHermitian hr hF hi
    · rw [h] at hi
      exact absurd hi List.not_mem_nil
  rw [gradient_eq] at hgradient
  rw [← mulVec_neg, ← eq_neg_of_add_eq_zero_left hgradient, mulVec_mulVec,
    nonsing_inv_mul _ hdet, one_mulVec]

/-! ## The minimum -/

/-- **A point that is stationary in its free coordinates is the only minimum** of a strictly convex
objective over the box. -/
theorem value_lt_of_stationary (hH : p.hessianMatrix.PosDef)
    (hfree : ∀ i ∈ (p.split z).free, p.gradient z i = 0) (hy : p.InBox y) (hyz : y ≠ z) :
    p.value z < p.value y := by
  have htangent : 0 ≤ (p.gradient z).entry ⬝ᵥ (y.entry - z.entry) := by
    refine Finset.sum_nonneg ?_
    intro i _
    change 0 ≤ p.gradient z i * (y i - z i)
    rcases (p.isSplit_split z).exhaustive i with hi | hi
    · rw [hfree i hi, zero_mul]
    · have hclamped := tangent_nonpos_of_clamped hi hy
      linarith
  have hstep : y.entry - z.entry ≠ 0 := by
    intro hzero
    exact hyz (Vec.ext_entry (congrFun (sub_eq_zero.mp hzero)))
  have hcurvature := hH.dotProduct_mulVec_pos hstep
  rw [star_trivial] at hcurvature
  have hexpansion := value_sub hH.isHermitian z y
  linarith

end Problem

/-! ## The end of the run -/

/-- An inverse that was made without regularization inverts the Hessian of the free coordinates. -/
theorem Problem.InverseFor.exists_toMatrix_eq {p : Problem ℝ n} {s : Settings ℝ}
    {part : Partition n} {inverse : Square ℝ} (hH : p.hessianMatrix.IsSymm)
    (hr : s.regularization = 0) (h : p.InverseFor s part inverse) :
    ∃ A : Mat ℝ part.free.length part.free.length, inverse = ⟨part.free.length, A⟩ ∧
      A.toMatrix = (p.freeHessian part).toMatrix⁻¹ := by
  obtain ⟨F, hF, rfl⟩ := h
  refine ⟨F.inverse, rfl, ?_⟩
  rw [Factorization.inverse_eq (isSymm_freeHessian hH part) hF, toMatrix_shift, hr, zero_smul,
    add_zero]

/-- A later iteration at a point that is stationary in its free coordinates stops there, and the
inverse is theirs. -/
theorem Run.step_of_stationary {p : Problem ℝ n} {s : Settings ℝ} {q : Run ℝ n}
    (hH : p.hessianMatrix.PosDef) (hr : s.regularization = 0) (heps : 0 < s.gradThreshold)
    (hlater : q.iterations ≠ 0) (hfree : (p.split q.workspace.iterate).free ≠ [])
    (hstationary : ∀ i ∈ (p.split q.workspace.iterate).free, p.gradient q.workspace.iterate i = 0)
    (hinverse : p.InverseFor s (p.split q.workspace.iterate) q.workspace.inverse) :
    ∃ q', q.step p s = .stopped q'
        (if (p.gradient q.workspace.iterate).maxAbs ≤ s.gradThreshold then .gradient else .step) ∧
      p.InverseFor s (p.split q.workspace.iterate) q'.workspace.inverse := by
  by_cases hflat : (p.gradient q.workspace.iterate).maxAbs ≤ s.gradThreshold
  · have hstop : p.stopStatus? s q.workspace.iterate = some .gradient :=
      if_pos (Exact.le_iff.mpr hflat)
    rw [if_pos hflat, step_of_stops_later hstop hlater]
    exact ⟨_, rfl, hinverse⟩
  · have hgoes : p.stopStatus? s q.workspace.iterate = none := by
      unfold Problem.stopStatus?
      rw [if_neg (mt Exact.le_iff.mp hflat), if_neg (mt List.isEmpty_iff.mp hfree)]
    obtain ⟨F, hF⟩ := Problem.exists_factorizeAt?_of_posDef_shift
      (Problem.posDef_shift hH hr.ge) q.workspace.iterate
    have hshort : Scalar.lt (p.directionAt q.workspace.iterate F).maxAbs s.gradThreshold := by
      rw [Problem.directionAt_of_stationary hH.isHermitian hr hF hstationary, Exact.maxAbs_zero]
      exact Exact.lt_iff.mpr heps
    rw [if_neg hflat, step_of_short hgoes hF hshort]
    exact ⟨_, rfl, F, hF, rfl⟩

/-- **A run that is at such a point after `k + 1` iterations returns it in the next one.** -/
theorem Problem.exists_outcome_of_stationary {p : Problem ℝ n} {s : Settings ℝ} {start : Vec ℝ n}
    {q : Run ℝ n} {k : ℕ} (hH : p.hessianMatrix.PosDef) (hr : s.regularization = 0)
    (heps : 0 < s.gradThreshold) (hk : k + 1 < s.maxIterations)
    (hrun : (Run.start (Workspace.fresh n) p start).advance p s (k + 1) = .running q)
    (hfree : (p.split q.workspace.iterate).free ≠ [])
    (hstationary : ∀ i ∈ (p.split q.workspace.iterate).free, p.gradient q.workspace.iterate i = 0)
    (hinverse : p.InverseFor s (p.split q.workspace.iterate) q.workspace.inverse) :
    ∃ inverse : Mat ℝ (p.split q.workspace.iterate).free.length
        (p.split q.workspace.iterate).free.length,
      inverse.toMatrix = (p.freeHessian (p.split q.workspace.iterate)).toMatrix⁻¹ ∧
      p.outcome s start s.maxIterations = .ok ⟨q.workspace.iterate, p.split q.workspace.iterate,
        ⟨_, inverse⟩, k + 2, if ‖p.hessianMatrix *ᵥ q.workspace.iterate.entry + p.linear.entry‖
          ≤ s.gradThreshold then .gradient else .step⟩ := by
  have hcount : q.iterations = 0 + (k + 1) := Run.iterations_of_advance hrun
  obtain ⟨q', hstop, hmade⟩ :=
    Run.step_of_stationary hH hr heps (by omega) hfree hstationary hinverse
  obtain ⟨hiterate, hpart⟩ := Run.fields_of_stopped hstop
  have hlast : q'.iterations = k + 2 := by
    rw [Run.iterations_of_stopped hstop, hcount, Nat.zero_add]
  obtain ⟨inverse, hsquare, hentries⟩ := hmade.exists_toMatrix_eq hH.isHermitian hr
  refine ⟨inverse, hentries, (outcome_of_stopped hrun hstop hk).trans ?_⟩
  unfold Run.solution
  rw [hiterate, hpart, hsquare, hlast, Exact.maxAbs_eq_norm, gradient_eq]

/-- An iteration that does not converge goes on at the Newton point, if the projection leaves that
where it is, with the inverse of the free coordinates. -/
theorem Run.step_to_newtonPoint {p : Problem ℝ n} {s : Settings ℝ} {r : Run ℝ n}
    {F : Factorization ℝ (p.split r.workspace.iterate).free.length}
    (hH : p.hessianMatrix.IsSymm) (hr : s.regularization = 0)
    (ht : s.acceptStepThreshold < 1 / 2) (hF : p.factorizeAt? s r.workspace.iterate = some F)
    (hgoes : p.Unconverged s r.workspace.iterate)
    (hd : p.directionAt r.workspace.iterate F ≠ Vec.zero n)
    (hz : p.project (p.newtonPoint r.workspace.iterate) = p.newtonPoint r.workspace.iterate) :
    ∃ q, r.step p s = .running q ∧ q.workspace.iterate = p.newtonPoint r.workspace.iterate ∧
      p.InverseFor s (p.split r.workspace.iterate) q.workspace.inverse := by
  have hstep := step_of_newton hgoes.stopStatus?_eq_none hF (hgoes.large hF)
  refine ⟨_, hstep, ?_, ?_⟩
  · rw [descend_direct_iterate, Problem.landing_of_project hH hr hF ht hd hz]
  · rw [descend_direct_inverse]
    exact ⟨F, hF, rfl⟩

/-- The iterate `x` after `k` iterations is one step away from the end of its run, as long as the
Newton point has the same free coordinates. -/
structure Solver.Finishes (solver : Solver ℝ) (p : Problem ℝ solver.dimension)
    (start : Vec ℝ solver.dimension) (k : ℕ) (x : Vec ℝ solver.dimension) : Prop where
  /-- The Newton point is the next iterate. -/
  next : p.Reaches solver.settings start (k + 1) (p.newtonPoint x)
  /-- With the free coordinates of `x`, it is returned in the iteration that follows, with the
  inverse of the Hessian of these coordinates. -/
  returned : p.split (p.newtonPoint x) = p.split x →
    ∃ inverse : Mat ℝ (p.split x).free.length (p.split x).free.length,
      inverse.toMatrix = (p.freeHessian (p.split x)).toMatrix⁻¹ ∧
      solver.Returns p start ⟨p.newtonPoint x, p.split x, ⟨_, inverse⟩, k + 2,
        if ‖p.hessianMatrix *ᵥ (p.newtonPoint x).entry + p.linear.entry‖
          ≤ solver.settings.gradThreshold then .gradient else .step⟩
  /-- Then it is the only minimum of the objective over the box. -/
  minimum : p.split (p.newtonPoint x) = p.split x → ∀ y, p.InBox y → y ≠ p.newtonPoint x →
    p.value (p.newtonPoint x) < p.value y
  /-- Without clamped coordinates it is the point where the gradient is zero. -/
  unclamped : (p.split x).clamped = [] →
    (p.newtonPoint x).entry = -(p.hessianMatrix⁻¹ *ᵥ p.linear.entry)

/-- **A run ends once its clamped coordinates are right.** From an iterate whose Newton point lies
in the box it goes to that point, and if the free coordinates are the same there, the iteration that
follows returns it as the only minimum over the box. -/
theorem Solver.finishes_of_inBox {solver : Solver ℝ} {p : Problem ℝ solver.dimension}
    {start x : Vec ℝ solver.dimension} {k : ℕ} (hH : p.hessianMatrix.PosDef)
    (hr : solver.settings.regularization = 0)
    (ht : solver.settings.acceptStepThreshold < 1 / 2) (heps : 0 < solver.settings.gradThreshold)
    (hk : k + 1 < solver.settings.maxIterations) (hx : p.Reaches solver.settings start k x)
    (hgoes : p.Unconverged solver.settings x) (hz : p.InBox (p.newtonPoint x)) :
    solver.Finishes p start k x := by
  obtain ⟨r, hrun, rfl⟩ := hx
  obtain ⟨F, hF⟩ := Problem.exists_factorizeAt?_of_posDef_shift
    (Problem.posDef_shift hH hr.ge) r.workspace.iterate
  have hstationary : ∀ i ∈ (p.split r.workspace.iterate).free,
      p.gradient (p.newtonPoint r.workspace.iterate) i = 0 :=
    fun i hi => Problem.gradient_newtonPoint hH.isHermitian hr hF hi
  have hdirection : p.directionAt r.workspace.iterate F ≠ Vec.zero solver.dimension := by
    intro hzero
    have hlarge := hgoes.large hF
    rw [hzero, Exact.maxAbs_zero, Bool.eq_false_iff] at hlarge
    exact hlarge (Exact.lt_iff.mpr heps)
  obtain ⟨q, hstep, hiterate, hinverse⟩ := Run.step_to_newtonPoint hH.isHermitian hr ht hF hgoes
    hdirection (Problem.project_of_inBox hz)
  have hnext : (Run.start (Workspace.fresh _) p start).advance p solver.settings (k + 1)
      = .running q := Run.advance_succ_running_iff.mpr ⟨r, hrun, hstep⟩
  refine ⟨⟨q, hnext, hiterate⟩, ?_, ?_, Problem.newtonPoint_of_unclamped hH hr hF⟩
  · intro hsplit
    -- The run is now at the Newton point, with the inverse of the free coordinates of the iterate
    -- before. These are also its own free coordinates, and it is stationary in them.
    have hfree : (p.split q.workspace.iterate).free ≠ [] := by
      rw [hiterate, hsplit]
      intro hnil
      exact hgoes .clamped (.clamped hnil)
    rw [← hsplit, ← hiterate] at hinverse hstationary
    have houtcome := Problem.exists_outcome_of_stationary hH hr heps hk hnext hfree hstationary
      hinverse
    rw [hiterate, hsplit] at houtcome
    obtain ⟨inverse, hentries, houtcome⟩ := houtcome
    exact ⟨inverse, hentries, returns_iff.mpr houtcome⟩
  · intro hsplit y hy hne
    rw [← hsplit] at hstationary
    exact Problem.value_lt_of_stationary hH hstationary hy hne

/-! ## A coordinate that stays clamped -/

/-- The corner with a linear term that holds the first coordinate on its bound. -/
noncomputable def Problem.edge : Problem ℝ 2 := { corner with linear := Vec.ofInts ![5, 4] }

/-- Two iterations, with one half as tolerance. -/
noncomputable def Settings.coarse : Settings ℝ := { quarter 2 with gradThreshold := Scalar.half }

namespace Problem

theorem posDef_edge : edge.hessianMatrix.PosDef := posDef_corner

theorem linear_edge : edge.linear.entry = ![5, 4] := by
  exact_mod_cast Vec.entry_ofInts_pair 5 4

theorem gradient_edge (x : Vec ℝ 2) : (edge.gradient x).entry
    = ![5 * x 0 + 4 * x 1 + 5, 4 * x 0 + 4 * x 1 + 4] := by
  have hhessian : edge.hessianMatrix = !![5, 4; 4, 4] := hessianMatrix_corner
  rw [gradient_eq, hhessian, linear_edge]
  funext i
  fin_cases i <;> simp [dotProduct, Fin.sum_univ_two]

/-- On the lower bound of the first coordinate, a gradient that points outwards there and not
in the second coordinate. -/
theorem isClamped_edge {x : Vec ℝ 2} (h0 : x 0 = 0) (h1 : x 1 = 0 ∨ x 1 = -1) :
    edge.isClamped x (edge.gradient x) = ![true, false] := by
  have hlower : edge.lower.entry = ![0, -2] := lower_corner
  have hupper : edge.upper.entry = ![1, 2] := upper_corner
  funext i
  rw [Bool.eq_iff_iff, isClamped_iff, gradient_edge, hlower, hupper]
  rcases h1 with h1 | h1 <;> fin_cases i <;> norm_num [h0, h1]

theorem split_edge {x : Vec ℝ 2} (h0 : x 0 = 0) (h1 : x 1 = 0 ∨ x 1 = -1) :
    edge.split x = ⟨[1], [0]⟩ := by
  unfold split partition
  rw [isClamped_edge h0 h1]
  rfl

theorem split_edge_start : edge.split (Vec.zero 2) = ⟨[1], [0]⟩ :=
  split_edge (Vec.entry_zero 0) (Or.inl (Vec.entry_zero 1))

theorem exists_factorizeAt?_edge :
    ∃ F, edge.factorizeAt? Settings.coarse (Vec.zero 2) = some F :=
  exists_factorizeAt?_of_posDef_shift (posDef_shift posDef_edge le_rfl) _

theorem newtonPoint_edge : edge.newtonPoint (Vec.zero 2) 0 = 0 ∧
    edge.newtonPoint (Vec.zero 2) 1 = -1 := by
  have hclamped : (0 : Fin 2) ∈ (edge.split (Vec.zero 2)).clamped := by simp [split_edge_start]
  have hfree : (1 : Fin 2) ∈ (edge.split (Vec.zero 2)).free := by simp [split_edge_start]
  have hzero : edge.newtonPoint (Vec.zero 2) 0 = 0 := by
    rw [newtonPoint_of_clamped hclamped, Vec.entry_zero]
  obtain ⟨F, hF⟩ := exists_factorizeAt?_edge
  have hgradient := gradient_newtonPoint posDef_edge.isHermitian rfl hF hfree
  rw [gradient_edge] at hgradient
  simp [hzero] at hgradient
  exact ⟨hzero, by linarith⟩

theorem unconverged_edge : edge.Unconverged Settings.coarse (Vec.zero 2) := by
  have hhalf : Settings.coarse.gradThreshold = 1 / 2 := rfl
  rintro status ⟨⟩
  · next flat =>
    have hsteep := Exact.abs_le_maxAbs (edge.gradient (Vec.zero 2)) 1
    rw [gradient_edge, Vec.entry_zero, Vec.entry_zero] at hsteep
    rw [Exact.le_iff, hhalf] at flat
    norm_num at hsteep
    linarith
  · next full => simp [split_edge_start] at full
  · next F hF small =>
    have hstep := congrFun (newtonPoint_eq posDef_edge.isHermitian rfl hF) 1
    rw [newtonPoint_edge.2, Pi.add_apply, Vec.entry_zero, zero_add] at hstep
    have hentry := Exact.abs_le_maxAbs (edge.directionAt (Vec.zero 2) F) 1
    rw [← hstep, abs_neg, abs_one] at hentry
    rw [Exact.lt_iff, hhalf] at small
    linarith

end Problem

/-- The first coordinate of the edge is clamped at the start and at the Newton point, which is
returned after two iterations. -/
theorem Solver.finishes_edge :
    Problem.edge.split (Problem.edge.newtonPoint (Vec.zero 2)) = Problem.edge.split (Vec.zero 2) ∧
      Solver.Finishes ⟨2, Settings.coarse, .fresh 2 none⟩ Problem.edge (Vec.zero 2) 0
        (Vec.zero 2) := by
  obtain ⟨h0, h1⟩ := Problem.newtonPoint_edge
  refine ⟨?_, ?_⟩
  · rw [Problem.split_edge h0 (Or.inr h1), Problem.split_edge_start]
  · refine Solver.finishes_of_inBox Problem.posDef_edge rfl ?_ ?_ one_lt_two
      (Problem.reaches_zero.mpr Problem.project_corner.symm) Problem.unconverged_edge ?_
    · norm_num [Settings.coarse, Settings.quarter]
    · norm_num [Settings.coarse]
    · have hlower : Problem.edge.lower.entry = ![0, -2] := Problem.lower_corner
      have hupper : Problem.edge.upper.entry = ![1, 2] := Problem.upper_corner
      intro i
      rw [hlower, hupper]
      fin_cases i <;> norm_num [h0, h1]

end ProjectedNewton
