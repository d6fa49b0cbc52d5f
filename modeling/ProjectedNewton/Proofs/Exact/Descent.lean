import ProjectedNewton.Proofs.Exact.Newton

/-!
# The objective decreases

A line search compares the decrease of the objective with a share of `g · (x - c)`, where `g` is the
gradient at `x` and `c` the candidate. After projection this prediction may be negative, and then
the comparison alone allows the objective to grow. That it does not grow has to do with curvature:
`c - x` has entries on the free coordinates only, and along these the objective is convex when the
Hessian of the free coordinates is positive semidefinite. Then a step along which the tangent rises
decreases nothing, and it cannot meet a prediction that is only a share of what the tangent says.

Without regularization the curvature comes from the factorization, for any symmetric Hessian. With
regularization it has to be assumed at the points that are visited (`Problem.CurvedAlong`).

* `Problem.value_lt_of_accepts`: an accepted step decreases the objective.
* `Problem.value_le_of_reaches`: the objective never increases along a run.
* `Problem.decreasing_of_curvedAlong` is the main result, with returned solutions and two budgets.
-/

namespace ProjectedNewton

open Matrix

variable {n : ℕ}

namespace Problem

variable {p : Problem ℝ n} {s : Settings ℝ} {x y start : Vec ℝ n} {i : Fin n}

/-! ## Steps along the free coordinates -/

/-- Projection does not move a point that a run has reached, even if bounds are crossed. -/
theorem project_of_reaches {k : ℕ} (h : p.Reaches s start k x) : p.project x = x :=
  project_eq_of_reaches p.project_project h

variable {F : Factorization ℝ (p.split x).free.length} {a : ℝ}

/-- A step does not move the clamped coordinates. -/
theorem candidate_of_clamped (hx : p.project x = x) (hi : i ∈ (p.split x).clamped) :
    (p.search s x F).candidate a i = x i := by
  have hmoved : (((p.directionAt x F).scale a).add x) i = x i := by
    rw [Vec.entry_add, Vec.entry_scale, directionAt_of_clamped hi, zero_mul, zero_add]
  have hentry : p.project x i = x i := by rw [hx]
  unfold LineSearch.candidate
  rw [entry_project] at hentry ⊢
  show Scalar.clamp ((((p.directionAt x F).scale a).add x) i) (p.lower i) (p.upper i) = x i
  rw [hmoved, hentry]

/-- The free coordinates of `x` span a subspace on which the objective is convex. -/
def Curved (p : Problem ℝ n) (x : Vec ℝ n) : Prop :=
  PosSemidef (p.freeHessian (p.split x)).toMatrix

/-- A convex objective is convex on every subspace. -/
theorem curved_of_posSemidef (hH : p.hessianMatrix.PosSemidef) (x : Vec ℝ n) : p.Curved x := by
  unfold Curved freeHessian
  rw [Exact.block_eq]
  exact hH.submatrix _

/-- Without regularization the factorization shows the curvature. -/
theorem curved_of_factorizeAt? (hH : p.hessianMatrix.IsSymm) (hr : s.regularization = 0)
    (hF : p.factorizeAt? s x = some F) : p.Curved x := by
  have hshift := Factorization.posSemidef (isSymm_freeHessian hH (p.split x)) hF
  rw [toMatrix_shift, hr, zero_smul, add_zero] at hshift
  exact hshift

/-- **An accepted step decreases the objective.** -/
theorem value_lt_of_accepts (hH : p.hessianMatrix.IsSymm) (hs : s.Admissible)
    (hx : p.project x = x) (hcurved : p.Curved x) (h : (p.search s x F).accepts a) :
    p.value ((p.search s x F).candidate a) < p.value x := by
  obtain ⟨hpos, hlt, -, -⟩ := hs
  rw [Exact.lt_iff] at hpos hlt
  generalize hc : (p.search s x F).candidate a = c
  have hzero : ∀ i ∈ (p.split x).clamped, (c.sub x) i = 0 := by
    intro i hi
    rw [Vec.entry_sub, ← hc, candidate_of_clamped hx hi, sub_self]
  have hcurvature : 0 ≤ (c.sub x).entry ⬝ᵥ p.hessianMatrix *ᵥ (c.sub x).entry := by
    rw [dotProduct_mulVec_free (p.isSplit_split x) hzero]
    exact hcurved.dotProduct_mulVec_nonneg _
  have hexpansion := value_sub hH x c
  rw [← Exact.sub_eq] at hexpansion
  have haccepted : s.acceptStepThreshold * Vec.dot (p.gradient x) (x.sub c)
      < p.value x - p.value c := by
    rw [← hc]
    exact Exact.lt_iff.mp h
  have hpredicted : Vec.dot (p.gradient x) (x.sub c)
      = -((p.gradient x).entry ⬝ᵥ (c.sub x).entry) := by
    rw [Exact.dot_eq, Exact.sub_eq, Exact.sub_eq, ← dotProduct_neg, neg_sub]
  rw [hpredicted] at haccepted
  -- If the tangent falls along the step, the prediction is not negative. If it rises, so does the
  -- objective, by at least as much, which is more than the share that acceptance allows.
  rcases le_or_gt ((p.gradient x).entry ⬝ᵥ (c.sub x).entry) 0 with hfalls | hrises
  · have hshare : 0 ≤ s.acceptStepThreshold * -((p.gradient x).entry ⬝ᵥ (c.sub x).entry) :=
      mul_nonneg hpos.le (neg_nonneg.mpr hfalls)
    linarith
  · have hshare : s.acceptStepThreshold * ((p.gradient x).entry ⬝ᵥ (c.sub x).entry)
        < (p.gradient x).entry ⬝ᵥ (c.sub x).entry := mul_lt_of_lt_one_left hrises hlt
    rw [mul_neg] at haccepted
    linarith

/-! ## Runs -/

/-- Either nothing is regularized, or the objective is convex along the free coordinates of every
point at which a run from `start` begins an iteration. -/
def CurvedAlong (p : Problem ℝ n) (s : Settings ℝ) (start : Vec ℝ n) : Prop :=
  s.regularization = 0 ∨ ∀ k < s.maxIterations, ∀ x, p.Reaches s start k x → p.Curved x

/-- A positive semidefinite Hessian is curved along whatever a run reaches. -/
theorem curvedAlong_of_posSemidef (hH : p.hessianMatrix.PosSemidef) : p.CurvedAlong s start :=
  Or.inr fun _ _ x _ => curved_of_posSemidef hH x

theorem CurvedAlong.curved (h : p.CurvedAlong s start) (hH : p.hessianMatrix.IsSymm) {k : ℕ}
    (hk : k < s.maxIterations) (hx : p.Reaches s start k x) (hF : p.factorizeAt? s x = some F) :
    p.Curved x := by
  rcases h with hr | h
  · exact curved_of_factorizeAt? hH hr hF
  · exact h k hk x hx

section Runs

variable (hH : p.hessianMatrix.IsSymm) (hs : s.Admissible) (hcurved : p.CurvedAlong s start)
include hH hs hcurved

/-- One iteration does not increase the objective. -/
theorem value_le_of_reaches_succ {k : ℕ} (hk : k < s.maxIterations)
    (hy : p.Reaches s start (k + 1) y) : ∃ x, p.Reaches s start k x ∧ p.value y ≤ p.value x := by
  obtain ⟨x, F, hx, hF, rfl⟩ := reaches_succ hy
  refine ⟨x, hx, ?_⟩
  unfold LineSearch.landing
  cases ha : (p.search s x F).acceptedLength with
  | none => exact le_rfl
  | some a =>
    exact (value_lt_of_accepts hH hs (project_of_reaches hx) (hcurved.curved hH hk hx hF)
      (LineSearch.accepts_of_acceptedLength ha)).le

/-- **The objective never increases along a run.** -/
theorem value_le_of_reaches {j k : ℕ} (hjk : j ≤ k) (hk : k ≤ s.maxIterations)
    (hx : p.Reaches s start j x) (hy : p.Reaches s start k y) : p.value y ≤ p.value x := by
  induction k generalizing y with
  | zero =>
    obtain rfl := Nat.le_zero.mp hjk
    rw [reaches_unique hx hy]
  | succ k ih =>
    rcases Nat.le_succ_iff.mp hjk with hle | rfl
    · obtain ⟨z, hz, hyz⟩ := value_le_of_reaches_succ hH hs hcurved hk hy
      exact hyz.trans (ih hle (Nat.le_of_succ_le hk) hz)
    · rw [reaches_unique hx hy]

end Runs

/-! ## Returned solutions -/

/-- The objective decreases from the start to the returned point. -/
structure Decreasing (p : Problem ℝ n) (s : Settings ℝ) (start : Vec ℝ n) : Prop where
  /-- Every step that a line search accepts decreases the objective. -/
  accepted {k : ℕ} {x : Vec ℝ n} {F : Factorization ℝ (p.split x).free.length} {a : ℝ} :
    k < s.maxIterations → p.Reaches s start k x → p.factorizeAt? s x = some F →
      (p.search s x F).accepts a → p.value ((p.search s x F).candidate a) < p.value x
  /-- No later iterate has a larger objective. -/
  iterates {j k : ℕ} {x y : Vec ℝ n} : j ≤ k → k ≤ s.maxIterations → p.Reaches s start j x →
    p.Reaches s start k y → p.value y ≤ p.value x
  /-- What is returned is no worse than the projected start. -/
  returned {memory : Memory ℝ n} {sol : Solution ℝ n} :
    Solver.Returns ⟨n, s, memory⟩ p start sol → p.value sol.x ≤ p.value (p.project start)
  /-- What is returned with a larger budget is no worse. -/
  budgets {m : ℕ} {memory memory' : Memory ℝ n} {sol sol' : Solution ℝ n} : m ≤ s.maxIterations →
    Solver.Returns ⟨n, { s with maxIterations := m }, memory⟩ p start sol →
      Solver.Returns ⟨n, s, memory'⟩ p start sol' → p.value sol'.x ≤ p.value sol.x

/-- **The objective decreases**, for a symmetric Hessian and along every run, as far as the
objective is convex along the free coordinates. -/
theorem decreasing_of_curvedAlong (hH : p.hessianMatrix.IsSymm) (hs : s.Admissible)
    (hcurved : p.CurvedAlong s start) : p.Decreasing s start := by
  have hiterates {j k : ℕ} {x y : Vec ℝ n} (hjk : j ≤ k) (hk : k ≤ s.maxIterations)
      (hx : p.Reaches s start j x) (hy : p.Reaches s start k y) : p.value y ≤ p.value x :=
    value_le_of_reaches hH hs hcurved hjk hk hx hy
  refine ⟨?_, hiterates, ?_, ?_⟩
  · intro k x F a hk hx hF ha
    exact value_lt_of_accepts hH hs (project_of_reaches hx) (hcurved.curved hH hk hx hF) ha
  · intro memory sol hsol
    obtain ⟨k, hk, hlast, -⟩ := (Solver.ending_of_returns hsol).last
    exact hiterates (Nat.zero_le k) hk (reaches_zero.mpr rfl) hlast
  · intro m memory memory' sol sol' hm hsol hsol'
    obtain ⟨j, hj, hreached, -⟩ := (Solver.ending_of_returns hsol).last
    obtain ⟨k, hk, hlast, hmax⟩ := (Solver.ending_of_returns hsol').last
    have hshared : p.Reaches s start j sol.x := reaches_withBudget.mp hreached
    exact hiterates (hmax j (hj.trans hm) _ hshared) hk hshared hlast

/-- On the corner, the only step of the run from zero is accepted, and it is a full one. -/
theorem decreasing_corner : corner.Decreasing (Settings.quarter 1) (Vec.zero 2) ∧ ∃ sol sol',
    Solver.Returns ⟨2, { Settings.quarter 1 with maxIterations := 0 }, .fresh 2 none⟩ corner
      (Vec.zero 2) sol ∧
    Solver.Returns ⟨2, Settings.quarter 1, .fresh 2 none⟩ corner (Vec.zero 2) sol' ∧
    corner.value sol'.x < corner.value sol.x := by
  have hdecreasing : corner.Decreasing (Settings.quarter 1) (Vec.zero 2) :=
    decreasing_of_curvedAlong posDef_corner.isHermitian (Settings.admissible_quarter 1) (Or.inl rfl)
  have hidle := @Solver.returns_of_idle ℝ _
    ⟨2, { Settings.quarter 1 with maxIterations := 0 }, .fresh 2 none⟩ corner (Vec.zero 2) rfl
  obtain ⟨F, hF, houtcome⟩ := outcome_corner (m := 1)
  have hreaches : corner.Reaches (Settings.quarter 1) (Vec.zero 2) 0 (Vec.zero 2) :=
    reaches_zero.mpr project_corner.symm
  have hcandidate : (corner.search (Settings.quarter 1) (Vec.zero 2) F).candidate 1
      = cornerMinimum := candidate_bend (c := 5) hF
  have hdecreases := hdecreasing.accepted one_pos hreaches hF (accepts_bend (c := 5) hF)
  rw [hcandidate] at hdecreases
  refine ⟨hdecreasing, _, _, hidle, Solver.returns_iff.mpr houtcome, ?_⟩
  rw [project_corner]
  exact hdecreases

end Problem

end ProjectedNewton
