import ProjectedNewton.Proofs.Exact.Breakdown
import ProjectedNewton.Proofs.Run.Budget

/-!
# Full Newton steps

A full Newton step leads to a point where the gradient is zero in the coordinates that were free, up
to the regularization. If the step stays in the box, the line search accepts it, as the objective
decreases by one half of what is predicted.

So the gradient can be zero after the step, and the run then stops there. But nothing says that the
coordinates that are free at the new point are those that were free before: a coordinate that was
clamped by its gradient is free when that gradient is gone. `Problem.corner` is the smallest case.

* `Problem.mulVec_direction` is the Newton equation, read in all coordinates.
* `Problem.gradient_of_full_step` and `Problem.accepts_one_of_full_step` are the two facts above;
  `Problem.accepts_iff_of_step` is the second one for steps of any length.
* `Problem.free_corner` and `Problem.free_cornerMinimum` are the free coordinates of the corner
  before and after the step, `Problem.outcome_bend` is the run up to there. It is the same for all
  curvatures of the coordinate that is clamped before.
-/

namespace ProjectedNewton

open Matrix

variable {n : ℕ}

/-- The full step is tried first. -/
theorem LineSearch.landing_of_accepts_one {l : LineSearch ℝ n} (h : l.accepts 1) :
    l.landing = l.candidate 1 := by
  have hfirst : l.acceptedLength = some 1 := by
    unfold acceptedLength stepLengths stepCount
    rw [List.range_succ_eq_map, List.map_cons]
    exact List.find?_cons_of_pos h
  unfold landing
  rw [hfirst]

namespace Problem

variable {p : Problem ℝ n} {s : Settings ℝ} {x y : Vec ℝ n} {i : Fin n}
  {F : Factorization ℝ (p.split x).free.length}

/-! ## The Newton equation -/

section Equation

variable (hH : p.hessianMatrix.IsSymm) (hF : p.factorizeAt? s x = some F)
include hH hF

/-- **The Newton equation**, on a free coordinate. -/
theorem mulVec_direction (hi : i ∈ (p.split x).free) :
    (p.hessianMatrix *ᵥ (p.directionAt x F).entry) i + s.regularization * p.directionAt x F i
      = -(p.gradient x i + s.regularization * x i) := by
  have hsplit := p.isSplit_split x
  obtain ⟨k, rfl⟩ := List.get_of_mem hi
  have hrow : (p.hessianMatrix *ᵥ (p.directionAt x F).entry) ((p.split x).free.get k)
      = ((p.freeHessian (p.split x)).toMatrix
          *ᵥ ((p.directionAt x F).pick (p.split x).free).entry) k := by
    unfold freeHessian
    rw [Exact.block_mulVec _ _ hsplit.nodup_free]
    refine (hsplit.sum_eq _).trans (add_eq_left.mpr (Finset.sum_eq_zero ?_))
    intro j hj
    have hzero : p.directionAt x F j = 0 := directionAt_of_clamped (List.mem_toFinset.mp hj)
    exact mul_eq_zero_of_right _ hzero
  have hsystem := congrFun (freeSystem_mulVec_direction hH hF) k
  unfold freeSystem at hsystem
  rw [add_mulVec, smul_mulVec, one_mulVec, Pi.add_apply, Pi.smul_apply, smul_eq_mul] at hsystem
  rw [hrow, ← hsystem]
  congr 2
  exact funext fun l => Vec.entry_pick _ _ l

/-- **After a full step the gradient is zero in the coordinates that were free**, up to the
regularization. -/
theorem gradient_of_full_step (hy : y.entry = x.entry + (p.directionAt x F).entry)
    (hi : i ∈ (p.split x).free) : p.gradient y i = -(s.regularization * y i) := by
  have hequation := mulVec_direction hH hF hi
  have hgradient : p.gradient y i
      = p.gradient x i + (p.hessianMatrix *ᵥ (p.directionAt x F).entry) i := by
    rw [gradient_eq, gradient_eq, hy, mulVec_add]
    simp only [Pi.add_apply]
    ring
  have hyi : y i = x i + p.directionAt x F i := congrFun hy i
  rw [hgradient, hyi]
  linarith

/-! ## Acceptance -/

section Acceptance

variable (hr : s.regularization = 0)
include hr

/-- Along the Newton direction the objective curves as much as its tangent falls. -/
theorem dotProduct_mulVec_direction :
    (p.directionAt x F).entry ⬝ᵥ p.hessianMatrix *ᵥ (p.directionAt x F).entry
      = -((p.gradient x).entry ⬝ᵥ (p.directionAt x F).entry) := by
  unfold dotProduct
  rw [← Finset.sum_neg_distrib]
  refine Finset.sum_congr rfl ?_
  intro i _
  change p.directionAt x F i * (p.hessianMatrix *ᵥ (p.directionAt x F).entry) i
    = -(p.gradient x i * p.directionAt x F i)
  rcases (p.isSplit_split x).exhaustive i with hfree | hclamped
  · have hequation := mulVec_direction hH hF hfree
    rw [hr, zero_mul, zero_mul, add_zero, add_zero] at hequation
    rw [hequation]
    ring
  · rw [directionAt_of_clamped hclamped, zero_mul, mul_zero, neg_zero]

/-- The curvature along a Newton direction is positive. -/
theorem dotProduct_mulVec_direction_pos (hd : p.directionAt x F ≠ Vec.zero n) :
    0 < (p.directionAt x F).entry ⬝ᵥ p.hessianMatrix *ᵥ (p.directionAt x F).entry := by
  have hsplit := p.isSplit_split x
  have hdefinite := Factorization.posDef (isSymm_freeHessian hH (p.split x)) hF
  rw [toMatrix_shift, hr, zero_smul, add_zero] at hdefinite
  rw [dotProduct_mulVec_free hsplit fun i hi => directionAt_of_clamped hi]
  refine hdefinite.dotProduct_mulVec_pos ?_
  intro hzero
  refine hd (Vec.ext_entry ?_)
  intro i
  rw [Vec.entry_zero]
  rcases hsplit.exhaustive i with hfree | hclamped
  · obtain ⟨k, rfl⟩ := List.get_of_mem hfree
    rw [← Vec.entry_pick]
    exact congrFun hzero k
  · exact directionAt_of_clamped hclamped

/-- **A step that stays in the box is accepted exactly if it is short enough** for the share `t` of
the prediction that is asked for: its length is below `2 * (1 - t)`. -/
theorem accepts_iff_of_step {a : ℝ} (ha : 0 < a) (hd : p.directionAt x F ≠ Vec.zero n)
    (hy : ((p.search s x F).candidate a).entry = x.entry + a • (p.directionAt x F).entry) :
    (p.search s x F).accepts a ↔ a < 2 * (1 - s.acceptStepThreshold) := by
  generalize hc : (p.search s x F).candidate a = c at hy
  have hstep : c.entry - x.entry = a • (p.directionAt x F).entry := by
    rw [hy, add_sub_cancel_left]
  have hcurvature := dotProduct_mulVec_direction hH hF hr
  have hpos := dotProduct_mulVec_direction_pos hH hF hr hd
  have hexpansion := value_sub hH x c
  rw [hstep, dotProduct_smul, mulVec_smul, dotProduct_smul, smul_dotProduct, smul_eq_mul,
    smul_eq_mul, smul_eq_mul] at hexpansion
  have hpredicted : Vec.dot (p.gradient x) (x.sub c)
      = a * -((p.gradient x).entry ⬝ᵥ (p.directionAt x F).entry) := by
    rw [Exact.dot_eq, Exact.sub_eq, ← neg_sub, hstep, dotProduct_neg, dotProduct_smul, smul_eq_mul,
      mul_neg]
  rw [← hcurvature] at hpredicted
  generalize (p.directionAt x F).entry ⬝ᵥ p.hessianMatrix *ᵥ (p.directionAt x F).entry = D
    at hcurvature hpos hexpansion hpredicted
  -- With the curvature `D`, a step of length `a` promises `a * D` and brings `a * D * (1 - a / 2)`.
  have hreduction : p.value x - p.value c = a * D * (1 - a / 2) := by
    rw [eq_neg_iff_add_eq_zero] at hcurvature
    linear_combination -hexpansion - a * hcurvature
  have haccepts : (p.search s x F).accepts a
      ↔ s.acceptStepThreshold * Vec.dot (p.gradient x) (x.sub c) < p.value x - p.value c := by
    rw [← hc]
    exact Exact.lt_iff
  rw [haccepts, hpredicted, hreduction, mul_comm, mul_lt_mul_iff_right₀ (mul_pos ha hpos)]
  constructor
  · intro h
    linarith
  · intro h
    linarith

/-- **A full step that stays in the box is accepted**, if less than one half of the prediction is
asked for. -/
theorem accepts_one_of_full_step (hs : s.acceptStepThreshold < 1 / 2)
    (hd : p.directionAt x F ≠ Vec.zero n)
    (hy : ((p.search s x F).candidate 1).entry = x.entry + (p.directionAt x F).entry) :
    (p.search s x F).accepts 1 := by
  rw [← one_smul ℝ (p.directionAt x F).entry] at hy
  rw [accepts_iff_of_step hH hF hr one_pos hd hy]
  linarith

end Acceptance

end Equation

end Problem

/-! ## A coordinate that becomes free -/

/-- Two variables, of which the first starts on its lower bound. -/
noncomputable def Problem.corner : Problem ℝ 2 where
  hessian := Mat.ofInts ![![5, 4], ![4, 4]]
  linear := Vec.ofInts ![4, 4]
  lower := Vec.ofInts ![0, -2]
  upper := Vec.ofInts ![1, 2]

/-- A problem with another Hessian. -/
def Problem.withHessian (p : Problem ℝ n) (H : Mat ℝ n n) : Problem ℝ n := { p with hessian := H }

/-- The corner with the curvature `c` in the first coordinate, which changes nothing as long as this
coordinate stays on its bound. -/
noncomputable def Problem.bend (c : ℤ) : Problem ℝ 2 :=
  corner.withHessian (Mat.ofInts ![![c, 4], ![4, 4]])

/-- Where the gradient of the corner is zero. -/
noncomputable def Problem.cornerMinimum : Vec ℝ 2 := Vec.ofInts ![0, -1]

/-- A quarter of the prediction is asked for, without tolerance and regularization. -/
noncomputable def Settings.quarter (m : ℕ) : Settings ℝ where
  maxIterations := m
  acceptStepThreshold := Scalar.half * Scalar.half
  gradThreshold := 0
  regularization := 0

theorem Settings.admissible_quarter (m : ℕ) : (quarter m).Admissible where
  acceptStepThreshold_pos := Exact.lt_iff.mpr (by norm_num [quarter])
  acceptStepThreshold_lt_one := Exact.lt_iff.mpr (by norm_num [quarter])
  gradThreshold_nonneg := Exact.le_iff.mpr le_rfl
  regularization_nonneg := Exact.le_iff.mpr le_rfl

namespace Problem

variable {m : ℕ} {c : ℤ} {s : Settings ℝ} {x : Vec ℝ 2}

theorem hessianMatrix_bend (c : ℤ) : (bend c).hessianMatrix = !![(c : ℝ), 4; 4, 4] := by
  refine (Mat.toMatrix_ofInts _).trans ?_
  ext i j
  fin_cases i <;> fin_cases j <;> simp

theorem isSymm_bend (c : ℤ) : (bend c).hessianMatrix.IsSymm := by
  rw [hessianMatrix_bend]
  ext i j
  fin_cases i <;> fin_cases j <;> rfl

theorem hessianMatrix_corner : corner.hessianMatrix = !![5, 4; 4, 4] := by
  exact_mod_cast hessianMatrix_bend 5

theorem linear_corner : corner.linear.entry = ![4, 4] := by
  exact_mod_cast Vec.entry_ofInts_pair 4 4

theorem lower_corner : corner.lower.entry = ![0, -2] := by
  exact_mod_cast Vec.entry_ofInts_pair 0 (-2)

theorem upper_corner : corner.upper.entry = ![1, 2] := by
  exact_mod_cast Vec.entry_ofInts_pair 1 2

theorem entry_cornerMinimum : cornerMinimum.entry = ![0, -1] := by
  exact_mod_cast Vec.entry_ofInts_pair 0 (-1)

/-- A form that adds a multiple of the square of the sum to the square of the first entry. -/
theorem posDef_square_add {c : ℝ} (hc : 0 < c) : PosDef !![1 + c, c; c, c] := by
  refine PosDef.of_dotProduct_mulVec_pos ?_ ?_
  · ext i j
    fin_cases i <;> fin_cases j <;> rfl
  · intro v hv
    have hform : star v ⬝ᵥ !![1 + c, c; c, c] *ᵥ v = v 0 ^ 2 + c * (v 0 + v 1) ^ 2 := by
      simp [dotProduct, mulVec, Fin.sum_univ_two]
      ring
    rw [hform]
    by_cases hzero : v 0 = 0
    · have hone : v 1 ≠ 0 := fun hone => hv (funext fun i => by fin_cases i <;> assumption)
      rw [hzero, zero_add]
      positivity
    · positivity

theorem posDef_corner : corner.hessianMatrix.PosDef := by
  have hform : (!![5, 4; 4, 4] : Matrix (Fin 2) (Fin 2) ℝ) = !![1 + 4, 4; 4, 4] := by norm_num
  rw [hessianMatrix_corner, hform]
  exact posDef_square_add four_pos

theorem gradient_corner (x : Vec ℝ 2) : (corner.gradient x).entry
    = ![5 * x 0 + 4 * x 1 + 4, 4 * x 0 + 4 * x 1 + 4] := by
  rw [gradient_eq, hessianMatrix_corner, linear_corner]
  funext i
  fin_cases i <;> simp [dotProduct, Fin.sum_univ_two]

theorem gradient_corner_start : (corner.gradient (Vec.zero 2)).entry = ![4, 4] := by
  rw [gradient_corner, Vec.entry_zero, Vec.entry_zero]
  norm_num

theorem gradient_cornerMinimum : (corner.gradient cornerMinimum).entry = 0 := by
  rw [gradient_corner, entry_cornerMinimum]
  funext i
  fin_cases i <;> norm_num

theorem isClamped_corner :
    corner.isClamped (Vec.zero 2) (corner.gradient (Vec.zero 2)) = ![true, false] := by
  funext i
  rw [Bool.eq_iff_iff, isClamped_iff, gradient_corner_start, Vec.entry_zero, lower_corner,
    upper_corner]
  fin_cases i <;> norm_num

theorem isClamped_cornerMinimum :
    corner.isClamped cornerMinimum (corner.gradient cornerMinimum) = fun _ => false := by
  funext i
  rw [Bool.eq_false_iff, Ne, isClamped_iff, gradient_cornerMinimum]
  simp

/-- At the start only the second coordinate is free. -/
theorem free_corner : (corner.split (Vec.zero 2)).free = [1] := by
  unfold split partition
  rw [isClamped_corner]
  rfl

/-- At the minimum both are. -/
theorem free_cornerMinimum : (corner.split cornerMinimum).free = [0, 1] := by
  unfold split partition
  rw [isClamped_cornerMinimum]
  rfl

theorem stopStatus?_corner (heps : s.gradThreshold < 4) :
    corner.stopStatus? s (Vec.zero 2) = none := by
  have hsteep := Exact.abs_le_maxAbs (corner.gradient (Vec.zero 2)) 0
  rw [gradient_corner_start] at hsteep
  have hlarge : ¬Scalar.le (corner.gradient (Vec.zero 2)).maxAbs s.gradThreshold := by
    rw [Exact.le_iff, not_le]
    refine lt_of_lt_of_le heps (le_of_eq_of_le ?_ hsteep)
    norm_num
  unfold stopStatus?
  rw [if_neg hlarge, free_corner]
  rfl

theorem stopStatus?_cornerMinimum :
    corner.stopStatus? (Settings.quarter m) cornerMinimum = some .gradient := by
  have hflat : Scalar.le (corner.gradient cornerMinimum).maxAbs (Settings.quarter m).gradThreshold
      := by
    refine Exact.le_iff.mpr (Exact.maxAbs_le le_rfl ?_)
    intro i
    rw [gradient_cornerMinimum, Pi.zero_apply, abs_zero]
    exact le_rfl
  unfold stopStatus?
  rw [if_pos hflat]

theorem exists_factorizeAt?_corner (x : Vec ℝ 2) :
    ∃ F, corner.factorizeAt? (Settings.quarter m) x = some F := by
  refine exists_factorizeAt?_of_posDef_shift ?_ x
  show (corner.hessianMatrix + (0 : ℝ) • 1).PosDef
  rw [zero_smul, add_zero]
  exact posDef_corner

theorem project_corner : corner.project (Vec.zero 2) = Vec.zero 2 := by
  refine Vec.ext_entry ?_
  intro i
  rw [entry_project, Exact.clamp_eq, Vec.entry_zero, lower_corner, upper_corner]
  fin_cases i <;> norm_num

theorem project_cornerMinimum : corner.project cornerMinimum = cornerMinimum := by
  refine Vec.ext_entry ?_
  intro i
  rw [entry_project, Exact.clamp_eq, entry_cornerMinimum, lower_corner, upper_corner]
  fin_cases i <;> norm_num

theorem lower_le_upper_corner (i : Fin 2) : corner.lower i ≤ corner.upper i := by
  rw [lower_corner, upper_corner]
  fin_cases i <;> norm_num

theorem cornerMinimum_ne_zero : cornerMinimum ≠ Vec.zero 2 := by
  intro hzero
  have hentry : cornerMinimum 1 = -1 := congrFun entry_cornerMinimum 1
  rw [hzero, Vec.entry_zero] at hentry
  norm_num at hentry

theorem entry_zero_cornerMinimum : cornerMinimum 0 = 0 := congrFun entry_cornerMinimum 0

/-! ### The other curvatures -/

section WithHessian

variable {p : Problem ℝ n} {H : Mat ℝ n n} {y : Vec ℝ n}

theorem linear_withHessian : (p.withHessian H).linear = p.linear := rfl

theorem project_withHessian : (p.withHessian H).project y = p.project y := rfl

theorem split_withHessian (h : (p.withHessian H).gradient y = p.gradient y) :
    (p.withHessian H).split y = p.split y := by
  unfold split
  rw [h]
  rfl

/-- An iteration sees the Hessian through the gradient only, until it takes a Newton step. -/
theorem stopStatus?_withHessian (h : (p.withHessian H).gradient y = p.gradient y) :
    (p.withHessian H).stopStatus? s y = p.stopStatus? s y := by
  unfold stopStatus?
  rw [h, split_withHessian h]

end WithHessian

theorem gradient_bend (hx : x 0 = 0) : (bend c).gradient x = corner.gradient x := by
  refine Vec.ext_entry fun i => congrFun ?_ i
  rw [gradient_corner, gradient_eq, hessianMatrix_bend, bend, linear_withHessian, linear_corner]
  funext i
  fin_cases i <;> simp [dotProduct, Fin.sum_univ_two, hx]

theorem split_bend (hx : x 0 = 0) : (bend c).split x = corner.split x :=
  split_withHessian (gradient_bend hx)

theorem stopStatus?_bend (hx : x 0 = 0) : (bend c).stopStatus? s x = corner.stopStatus? s x :=
  stopStatus?_withHessian (gradient_bend hx)

/-- If only the second coordinate is free, its curvature is all there is. -/
theorem posDef_freeSystem_bend {part : Partition 2} (hfree : part.free = [1]) :
    ((bend c).freeSystem part 0).PosDef := by
  obtain ⟨free, clamped⟩ := part
  change free = [1] at hfree
  subst hfree
  have hentry : (bend c).hessianMatrix 1 1 = 4 := by
    rw [hessianMatrix_bend]
    rfl
  have hfour : (bend c).freeSystem ⟨[1], clamped⟩ 0 = (4 : ℝ) • 1 := by
    unfold freeSystem freeHessian
    rw [Exact.block_eq, zero_smul, add_zero]
    ext i j
    fin_cases i
    fin_cases j
    exact hentry.trans (mul_one 4).symm
  rw [hfour]
  exact PosDef.one.smul four_pos

theorem exists_factorizeAt?_bend :
    ∃ F, (bend c).factorizeAt? (Settings.quarter m) (Vec.zero 2) = some F := by
  have hfree : ((bend c).split (Vec.zero 2)).free = [1] := by
    rw [split_bend (Vec.entry_zero 0), free_corner]
  exact exists_factorizeAt?_of_posDef (posDef_freeSystem_bend hfree)

section Step

variable {F : Factorization ℝ ((bend c).split (Vec.zero 2)).free.length}

/-- No step is too short for a tolerance of zero. -/
theorem large_bend : Scalar.lt ((bend c).directionAt (Vec.zero 2) F).maxAbs
    (Settings.quarter m).gradThreshold = false := by
  rw [Bool.eq_false_iff, Ne, Exact.lt_iff, not_lt]
  exact (abs_nonneg _).trans (Exact.abs_le_maxAbs ((bend c).directionAt (Vec.zero 2) F) 0)

variable (hF : (bend c).factorizeAt? (Settings.quarter m) (Vec.zero 2) = some F)
include hF

theorem directionAt_bend : (bend c).directionAt (Vec.zero 2) F = cornerMinimum := by
  have hsplit : (bend c).split (Vec.zero 2) = corner.split (Vec.zero 2) :=
    split_bend (Vec.entry_zero 0)
  have hclamped : (0 : Fin 2) ∈ ((bend c).split (Vec.zero 2)).clamped := by
    rw [hsplit, mem_clamped_iff, isClamped_corner]
    rfl
  have hfree : (1 : Fin 2) ∈ ((bend c).split (Vec.zero 2)).free := by simp [hsplit, free_corner]
  have hzero : (bend c).directionAt (Vec.zero 2) F 0 = 0 := directionAt_of_clamped hclamped
  have hequation := mulVec_direction (isSymm_bend c) hF hfree
  rw [hessianMatrix_bend, gradient_bend (Vec.entry_zero 0), gradient_corner_start] at hequation
  simp [dotProduct, Fin.sum_univ_two, hzero, Settings.quarter] at hequation
  have hone : (bend c).directionAt (Vec.zero 2) F 1 = -1 := by linarith
  refine Vec.ext_entry ?_
  intro i
  rw [entry_cornerMinimum]
  fin_cases i
  · exact hzero
  · exact hone

theorem full_step_bend :
    (((bend c).directionAt (Vec.zero 2) F).scale 1).add (Vec.zero 2) = cornerMinimum := by
  refine Vec.ext_entry ?_
  intro i
  rw [Vec.entry_add, Vec.entry_scale, Vec.entry_zero, mul_one, add_zero, directionAt_bend hF]

theorem candidate_bend :
    ((bend c).search (Settings.quarter m) (Vec.zero 2) F).candidate 1 = cornerMinimum := by
  unfold LineSearch.candidate
  exact (congrArg (bend c).project (full_step_bend hF)).trans
    (project_withHessian.trans project_cornerMinimum)

theorem accepts_bend : ((bend c).search (Settings.quarter m) (Vec.zero 2) F).accepts 1 := by
  refine accepts_one_of_full_step (isSymm_bend c) hF rfl ?_ ?_ ?_
  · norm_num [Settings.quarter]
  · rw [directionAt_bend hF]
    exact cornerMinimum_ne_zero
  · rw [candidate_bend hF, directionAt_bend hF]
    funext i
    rw [Pi.add_apply, Vec.entry_zero, zero_add]

/-- The full step from the start leads to the minimum. -/
theorem landing_bend :
    ((bend c).search (Settings.quarter m) (Vec.zero 2) F).landing = cornerMinimum := by
  rw [LineSearch.landing_of_accepts_one (accepts_bend hF), candidate_bend hF]

end Step

/-- One iteration leads from the start to the minimum, whatever the curvature. -/
theorem outcome_bend (c : ℤ) (m : ℕ) :
    ∃ F, (bend c).factorizeAt? (Settings.quarter m) (Vec.zero 2) = some F ∧
      (bend c).outcome (Settings.quarter m) (Vec.zero 2) 1
        = .ok ⟨cornerMinimum, (bend c).split (Vec.zero 2), ⟨_, F.inverse⟩, 1, .maxIterations⟩ := by
  obtain ⟨F, hF⟩ := exists_factorizeAt?_bend (c := c) (m := m)
  have hgoes : (bend c).stopStatus? (Settings.quarter m) (Vec.zero 2) = none :=
    (stopStatus?_bend (Vec.entry_zero 0)).trans (stopStatus?_corner four_pos)
  have hproject : (bend c).project (Vec.zero 2) = Vec.zero 2 :=
    project_withHessian.trans project_corner
  have houtcome := outcome_one_of_newton hproject hgoes hF large_bend
  rw [landing_bend hF] at houtcome
  exact ⟨F, hF, houtcome⟩

/-! ### The run on the corner -/

section Corner

variable {F : Factorization ℝ (corner.split (Vec.zero 2)).free.length}

theorem large_corner : Scalar.lt (corner.directionAt (Vec.zero 2) F).maxAbs
    (Settings.quarter m).gradThreshold = false :=
  large_bend (c := 5)

variable (hF : corner.factorizeAt? (Settings.quarter m) (Vec.zero 2) = some F)
include hF

theorem directionAt_corner : corner.directionAt (Vec.zero 2) F = cornerMinimum :=
  directionAt_bend (c := 5) hF

theorem full_step_corner :
    ((corner.directionAt (Vec.zero 2) F).scale 1).add (Vec.zero 2) = cornerMinimum :=
  full_step_bend (c := 5) hF

end Corner

theorem outcome_corner : ∃ F, corner.factorizeAt? (Settings.quarter m) (Vec.zero 2) = some F ∧
    corner.outcome (Settings.quarter m) (Vec.zero 2) 1
      = .ok ⟨cornerMinimum, corner.split (Vec.zero 2), ⟨_, F.inverse⟩, 1, .maxIterations⟩ :=
  outcome_bend 5 m

/-- There a new run stops at once. -/
theorem outcome_cornerMinimum (hm : m ≠ 0) :
    ∃ F, corner.factorizeAt? (Settings.quarter m) cornerMinimum = some F ∧
      corner.outcome (Settings.quarter m) cornerMinimum m
        = .ok ⟨cornerMinimum, corner.split cornerMinimum, ⟨_, F.inverse⟩, 1, .gradient⟩ := by
  obtain ⟨F, hF⟩ := exists_factorizeAt?_corner (m := m) cornerMinimum
  refine ⟨F, hF, ?_⟩
  rw [outcome_of_stopStatus? project_cornerMinimum hm stopStatus?_cornerMinimum]
  unfold stoppedAt
  rw [factorizeAt_eq_ok hF]

end Problem

end ProjectedNewton
