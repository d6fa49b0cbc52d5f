import ProjectedNewton.Proofs.Run.Advance

/-!
# The iterates of a run

A run visits one point after the other, and a larger budget only lets it go on for longer: the
points that it has visited before are the same.

* `Problem.Reaches p s start k x` says that a run from `start` is at `x` after `k` iterations.
* `Problem.reaches_succ` leads from each point to the next, through a line search.
* `Problem.reaches_withBudget`: the points do not depend on the budget.
* `Ending.last` says that a returned point is the last one that is reached within the budget, and
  `Ending.searched` how it was reached if the budget is used up.
* `Problem.exists_reaches_of_error` finds the point at which a run without a solution broke down.
-/

namespace ProjectedNewton

variable {α : Type} [Scalar α] {n : Nat}

/-- A run from `start` is at `x` after `k` iterations, and none of them has ended it. -/
def Problem.Reaches (p : Problem α n) (s : Settings α) (start : Vec α n) (k : Nat)
    (x : Vec α n) : Prop :=
  ∃ q, (Run.start (Workspace.fresh n) p start).advance p s k = .running q ∧
    q.workspace.iterate = x

namespace Problem

variable {p : Problem α n} {s : Settings α} {start x y : Vec α n} {j k : Nat}

theorem reaches_zero : p.Reaches s start 0 x ↔ x = p.project start := by
  constructor
  · rintro ⟨q, hq, rfl⟩
    cases hq
    rfl
  · intro h
    exact ⟨_, rfl, h.symm⟩

/-- A run goes from each point to the landing point of its line search. -/
theorem reaches_succ (h : p.Reaches s start (k + 1) y) : ∃ x F, p.Reaches s start k x ∧
    p.factorizeAt? s x = some F ∧ y = (p.search s x F).landing := by
  obtain ⟨q, hq, rfl⟩ := h
  obtain ⟨r, hr, hstep⟩ := Run.advance_succ_running_iff.mp hq
  obtain ⟨F, hF, hiterate, -⟩ := Run.fields_of_running hstep
  exact ⟨r.workspace.iterate, F, ⟨r, hr, rfl⟩, hF, hiterate⟩

theorem reaches_unique (h : p.Reaches s start k x) (h' : p.Reaches s start k y) : x = y := by
  obtain ⟨q, hq, rfl⟩ := h
  obtain ⟨q', hq', rfl⟩ := h'
  rw [hq] at hq'
  cases hq'
  rfl

/-- The landing point of the line search at an iterate is the next iterate. -/
theorem landing_of_reaches {F : Factorization α (p.split x).free.length}
    (hx : p.Reaches s start k x) (hF : p.factorizeAt? s x = some F)
    (hy : p.Reaches s start (k + 1) y) : y = (p.search s x F).landing := by
  obtain ⟨x', F', hx', hF', rfl⟩ := reaches_succ hy
  cases reaches_unique hx' hx
  cases hF'.symm.trans hF
  rfl

/-- Projection does not move a point that a run has reached, if it moves no point twice. -/
theorem project_eq_of_reaches (hproject : ∀ x, p.project (p.project x) = p.project x)
    (h : p.Reaches s start k x) : p.project x = x := by
  induction k generalizing x with
  | zero =>
    rw [reaches_zero.mp h]
    exact hproject start
  | succ k ih =>
    obtain ⟨y, F, hy, -, rfl⟩ := reaches_succ h
    unfold LineSearch.landing
    cases (p.search s y F).acceptedLength with
    | none => exact ih hy
    | some a => exact hproject _

/-- The budget does not matter to a run as long as it lasts. -/
theorem reaches_withBudget {m : Nat} :
    p.Reaches { s with maxIterations := m } start k x ↔ p.Reaches s start k x := by
  unfold Reaches
  rw [Run.advance_withBudget]

end Problem

/-- **The returned point is the last one that is reached within the budget.** -/
theorem Ending.last {s : Settings α} {p : Problem α n} {start : Vec α n} {sol : Solution α n}
    (h : Ending (Workspace.fresh n) s p start sol) : ∃ k ≤ s.maxIterations,
      p.Reaches s start k sol.x ∧ ∀ j ≤ s.maxIterations, ∀ x, p.Reaches s start j x → j ≤ k := by
  cases h with
  | idle budget =>
    exact ⟨0, Nat.zero_le _, Problem.reaches_zero.mpr rfl, fun j hj _ _ => budget ▸ hj⟩
  | @stopped k r q status budget reached stops =>
    refine ⟨k, Nat.le_of_lt budget, ⟨r, reached, (Run.fields_of_stopped stops).1.symm⟩, ?_⟩
    rintro j - x ⟨q', hq', -⟩
    -- A run that is reached later would have gone on with the iteration that has stopped.
    refine Nat.le_of_not_lt ?_
    intro hlt
    obtain ⟨r', hr'⟩ := Run.advance_running_of_le hlt hq'
    rw [Run.advance_succ, reached] at hr'
    dsimp only at hr'
    rw [stops] at hr'
    cases hr'
  | @exhausted k r q budget reached goesOn =>
    have hq : (Run.start (Workspace.fresh n) p start).advance p s (k + 1) = .running q :=
      Run.advance_succ_running_iff.mpr ⟨r, reached, goesOn⟩
    exact ⟨k + 1, Nat.le_of_eq budget.symm, ⟨q, hq, rfl⟩, fun j hj _ _ => budget ▸ hj⟩

/-- A run that has used up its budget returns the landing point of its last line search, with the
partition of the iterate before. -/
theorem Ending.searched {s : Settings α} {p : Problem α n} {start : Vec α n} {sol : Solution α n}
    (h : Ending (Workspace.fresh n) s p start sol) (hm : s.maxIterations ≠ 0)
    (hstatus : sol.status = .maxIterations) : ∃ k < s.maxIterations, ∃ x F,
      p.Reaches s start k x ∧ p.Unconverged s x ∧ p.factorizeAt? s x = some F ∧
        sol.x = (p.search s x F).landing ∧ sol.partition = p.split x := by
  cases h with
  | idle budget => exact absurd budget hm
  | @stopped k r q status budget reached stops =>
    change status = .maxIterations at hstatus
    subst hstatus
    cases Run.converged_of_stopped stops
  | @exhausted k r q budget reached goesOn =>
    obtain ⟨F, hF, hiterate, hpart⟩ := Run.fields_of_running goesOn
    exact ⟨k, by omega, r.workspace.iterate, F, ⟨r, reached, rfl⟩,
      Run.unconverged_of_running goesOn, hF, hiterate, hpart⟩

/-- **A run breaks down on the free Hessian of a point that it has reached.** -/
theorem Problem.exists_reaches_of_error {e : FactorizationError α}
    (h : ((Workspace.fresh n).solve s p start).2.outcome = .error e) :
    ∃ k < s.maxIterations, ∃ x, p.Reaches s start k x ∧ p.factorizeAt s x = .error e := by
  by_cases hm : s.maxIterations = 0
  · rw [Workspace.outcome_of_idle hm] at h
    cases h
  · rw [Workspace.report_of_budget hm] at h
    cases hend : (Run.start (Workspace.fresh n) p start).advance p s s.maxIterations with
    | running q => rw [hend] at h; cases h
    | stopped q status => rw [hend] at h; cases h
    | broken q e' =>
      rw [hend] at h
      cases h
      obtain ⟨k, hk, r, hr, hstep⟩ := Run.exists_step_of_advance (by simp) hend
      exact ⟨k, hk, r.workspace.iterate, ⟨r, hr, rfl⟩, Run.factorizeAt_of_broken hstep⟩

end ProjectedNewton
