import ProjectedNewton.Proofs.Run.Step

/-!
# Runs of any length

What holds of a run follows from what holds of its iterations.

* `advance_succ_running_iff` takes the last iteration off a run that is still going on, and
  `advance_invariant` is the induction over a run that this gives.
* `exists_step_of_advance` finds the iteration with which a run ended.
* `Ending` lists the three ways a run can return a solution, and `ending_of_outcome` says that there
  are no others.
-/

namespace ProjectedNewton

variable {α : Type} [Scalar α] {n : Nat}

namespace Run

variable {p : Problem α n} {s : Settings α} {r q : Run α n} {j k : Nat}

/-! ## One iteration more -/

theorem advance_one : r.advance p s 1 = r.step p s := by
  unfold advance
  cases r.step p s with
  | running q => rfl
  | stopped q status => rfl
  | broken q e => rfl

/-- Nothing is added to a run that ends in its first iteration. -/
theorem advance_of_ended (h : ∀ q, r.step p s ≠ .running q) :
    r.advance p s (k + 1) = r.step p s := by
  unfold advance
  cases hstep : r.step p s with
  | running q => exact absurd hstep (h q)
  | stopped q status => rfl
  | broken q e => rfl

theorem advance_succ : r.advance p s (k + 1) = match r.advance p s k with
    | .running q => q.step p s
    | ended => ended := by
  rw [advance_add]
  cases r.advance p s k with
  | running q => exact advance_one
  | stopped q status => rfl
  | broken q e => rfl

theorem advance_succ_running_iff : r.advance p s (k + 1) = .running q ↔
    ∃ r', r.advance p s k = .running r' ∧ r'.step p s = .running q := by
  rw [advance_succ]
  cases r.advance p s k with
  | running r' => simp
  | stopped r' status => simp
  | broken r' e => simp

/-- A run that goes on after `k` iterations went on before. -/
theorem advance_running_of_le (hjk : j ≤ k) (h : r.advance p s k = .running q) :
    ∃ r', r.advance p s j = .running r' := by
  obtain ⟨l, rfl⟩ := Nat.exists_eq_add_of_le hjk
  rw [advance_add] at h
  cases hj : r.advance p s j with
  | running r' => exact ⟨r', rfl⟩
  | stopped r' status => rw [hj] at h; cases h
  | broken r' e => rw [hj] at h; cases h

/-- What the iterations of a run preserve holds as long as the run goes on. -/
theorem advance_invariant (Inv : Run α n → Prop)
    (hstep : ∀ q q', Inv q → q.step p s = .running q' → Inv q') (h0 : Inv r) :
    ∀ {k : Nat} {q : Run α n}, r.advance p s k = .running q → Inv q
  | 0, q, h => by
    cases h
    exact h0
  | k + 1, q, h => by
    obtain ⟨r', hr', hq⟩ := advance_succ_running_iff.mp h
    exact hstep r' q (advance_invariant Inv hstep h0 hr') hq

/-- The iterations of a run are counted. -/
theorem iterations_of_advance (h : r.advance p s k = .running q) :
    q.iterations = r.iterations + k := by
  induction k generalizing q with
  | zero =>
    cases h
    rfl
  | succ k ih =>
    obtain ⟨r', hr', hq⟩ := advance_succ_running_iff.mp h
    rw [iterations_of_running hq, ih hr', Nat.add_assoc]

/-- A run that ended did so in one of its iterations. -/
theorem exists_step_of_advance {e : Progress α n} (he : ∀ q, e ≠ .running q) :
    ∀ {k : Nat}, r.advance p s k = e →
      ∃ j < k, ∃ r', r.advance p s j = .running r' ∧ r'.step p s = e
  | 0, h => absurd h.symm (he r)
  | k + 1, h => by
    rw [advance_succ] at h
    cases hk : r.advance p s k with
    | running r' =>
      rw [hk] at h
      exact ⟨k, Nat.lt_succ_self k, r', hk, h⟩
    | stopped r' status =>
      rw [hk] at h
      obtain ⟨j, hj, hrest⟩ := exists_step_of_advance he (hk.trans h)
      exact ⟨j, Nat.lt_succ_of_lt hj, hrest⟩
    | broken r' e' =>
      rw [hk] at h
      obtain ⟨j, hj, hrest⟩ := exists_step_of_advance he (hk.trans h)
      exact ⟨j, Nat.lt_succ_of_lt hj, hrest⟩

/-- How many iterations a run may take does not change what an iteration does. -/
theorem advance_withBudget (m : Nat) : ∀ (k : Nat) (r : Run α n),
    r.advance p { s with maxIterations := m } k = r.advance p s k
  | 0, _ => rfl
  | k + 1, r => by
    have hstep : r.step p { s with maxIterations := m } = r.step p s := rfl
    rw [advance, advance, hstep]
    cases r.step p s with
    | running q => exact advance_withBudget m k q
    | stopped q status => rfl
    | broken q e => rfl

end Run

/-! ## The end of a run -/

section Solve

variable {w : Workspace α n} {s : Settings α} {p : Problem α n} {start : Vec α n}

/-- Without any iteration, the projected start is returned. -/
theorem Workspace.outcome_of_idle (hm : s.maxIterations = 0) : (w.solve s p start).2.outcome
    = .ok ⟨p.project start, p.split (p.project start), .empty, 0, .maxIterations⟩ := by
  unfold solve
  dsimp only
  rw [if_pos hm]
  rfl

/-- Otherwise the report is that of the run as far as it goes within the budget. -/
theorem Workspace.report_of_budget (hm : s.maxIterations ≠ 0) :
    (w.solve s p start).2 = ((Run.start w p start).advance p s s.maxIterations).report := by
  unfold solve
  dsimp only
  rw [if_neg hm]

end Solve

/-- The ways a run from `start` can return a solution. -/
inductive Ending (w : Workspace α n) (s : Settings α) (p : Problem α n) (start : Vec α n) :
    Solution α n → Prop
  /-- No iteration was allowed. -/
  | idle (budget : s.maxIterations = 0) :
      Ending w s p start ⟨p.project start, p.split (p.project start), .empty, 0, .maxIterations⟩
  /-- An iteration within the budget stopped. -/
  | stopped {k : Nat} {r q : Run α n} {status : Status} (budget : k < s.maxIterations)
      (reached : (Run.start w p start).advance p s k = .running r)
      (stops : r.step p s = .stopped q status) : Ending w s p start (q.solution status)
  /-- The budget is used up, and the last iteration went on. -/
  | exhausted {k : Nat} {r q : Run α n} (budget : s.maxIterations = k + 1)
      (reached : (Run.start w p start).advance p s k = .running r)
      (goesOn : r.step p s = .running q) : Ending w s p start (q.solution .maxIterations)

/-- **A run returns a solution in one of three ways.** -/
theorem ending_of_outcome {w : Workspace α n} {s : Settings α} {p : Problem α n}
    {start : Vec α n} {sol : Solution α n} (h : (w.solve s p start).2.outcome = .ok sol) :
    Ending w s p start sol := by
  by_cases hm : s.maxIterations = 0
  · rw [Workspace.outcome_of_idle hm] at h
    cases h
    exact .idle hm
  · rw [Workspace.report_of_budget hm] at h
    cases hend : (Run.start w p start).advance p s s.maxIterations with
    | running q =>
      rw [hend] at h
      cases h
      obtain ⟨k, hk⟩ := Nat.exists_eq_succ_of_ne_zero hm
      rw [hk] at hend
      obtain ⟨r, hr, hq⟩ := Run.advance_succ_running_iff.mp hend
      exact .exhausted hk hr hq
    | stopped q status =>
      rw [hend] at h
      cases h
      obtain ⟨k, hk, r, hr, hq⟩ := Run.exists_step_of_advance (by simp) hend
      exact .stopped hk hr hq
    | broken q e => rw [hend] at h; cases h

/-- A run takes at most as many iterations as it may. -/
theorem Ending.iterations_le {w : Workspace α n} {s : Settings α} {p : Problem α n}
    {start : Vec α n} {sol : Solution α n} (h : Ending w s p start sol) :
    sol.iterations ≤ s.maxIterations := by
  cases h with
  | idle budget => exact Nat.zero_le _
  | @stopped k r q status budget reached stops =>
    have hcount : r.iterations = 0 + k := Run.iterations_of_advance reached
    have hlast : q.iterations = r.iterations + 1 := Run.iterations_of_stopped stops
    show q.iterations ≤ s.maxIterations
    omega
  | @exhausted k r q budget reached goesOn =>
    have hcount : r.iterations = 0 + k := Run.iterations_of_advance reached
    have hlast : q.iterations = r.iterations + 1 := Run.iterations_of_running goesOn
    show q.iterations ≤ s.maxIterations
    omega

/-! ## Convergence -/

/-- What a status other than `maxIterations` says about the point where a run stopped. -/
inductive Problem.Converged (p : Problem α n) (s : Settings α) (x : Vec α n) : Status → Prop
  | gradient (flat : Scalar.le (p.gradient x).maxAbs s.gradThreshold) : p.Converged s x .gradient
  | clamped (full : (p.split x).free = []) : p.Converged s x .clamped
  | step {F : Factorization α (p.split x).free.length} (factored : p.factorizeAt? s x = some F)
      (small : Scalar.lt (p.directionAt x F).maxAbs s.gradThreshold) : p.Converged s x .step

theorem Problem.converged_of_stopStatus? {p : Problem α n} {s : Settings α} {x : Vec α n}
    {status : Status} (h : p.stopStatus? s x = some status) : p.Converged s x status := by
  unfold Problem.stopStatus? at h
  split at h
  · next hflat =>
    cases h
    exact .gradient hflat
  · split at h
    · next hfull =>
      cases h
      exact .clamped (List.isEmpty_iff.mp hfull)
    · cases h

theorem Problem.status_of_stopStatus? {p : Problem α n} {s : Settings α} {x : Vec α n}
    {status : Status} (h : p.stopStatus? s x = some status) :
    status = .gradient ∨ status = .clamped := by
  unfold stopStatus? at h
  split at h
  · cases h
    exact Or.inl rfl
  · split at h
    · cases h
      exact Or.inr rfl
    · cases h

theorem Run.converged_of_stopped {p : Problem α n} {s : Settings α} {r q : Run α n}
    {status : Status} (h : r.step p s = .stopped q status) :
    p.Converged s r.workspace.iterate status := by
  have hcase : StepCase p s r (r.step p s) := step_cases p s r
  rw [h] at hcase
  cases hcase with
  | stopsFirst stops first factored => exact Problem.converged_of_stopStatus? stops
  | stopsLater stops later => exact Problem.converged_of_stopStatus? stops
  | short goesOn factored small => exact .step factored small

/-- An iteration at `x` does not stop there: it carries out its line search, if it can factorize. -/
def Problem.Unconverged (p : Problem α n) (s : Settings α) (x : Vec α n) : Prop :=
  ∀ status, ¬p.Converged s x status

namespace Problem.Unconverged

variable {p : Problem α n} {s : Settings α} {x : Vec α n}

theorem stopStatus?_eq_none (h : p.Unconverged s x) : p.stopStatus? s x = none := by
  cases hstop : p.stopStatus? s x with
  | none => rfl
  | some status => exact absurd (converged_of_stopStatus? hstop) (h status)

theorem large (h : p.Unconverged s x) {F : Factorization α (p.split x).free.length}
    (hF : p.factorizeAt? s x = some F) :
    Scalar.lt (p.directionAt x F).maxAbs s.gradThreshold = false :=
  Bool.eq_false_iff.mpr fun hsmall => h .step (.step hF hsmall)

end Problem.Unconverged

/-- An iteration that takes a Newton step that is not short has not converged. -/
theorem Problem.unconverged_of_large {p : Problem α n} {s : Settings α} {x : Vec α n}
    {F : Factorization α (p.split x).free.length} (hgoes : p.stopStatus? s x = none)
    (hF : p.factorizeAt? s x = some F)
    (hlarge : Scalar.lt (p.directionAt x F).maxAbs s.gradThreshold = false) :
    p.Unconverged s x := by
  rintro status ⟨⟩
  · next flat => simp [stopStatus?, flat] at hgoes
  · next full =>
    unfold stopStatus? at hgoes
    split at hgoes
    · cases hgoes
    · simp [full] at hgoes
  · next F' hF' small =>
    cases hF.symm.trans hF'
    rw [small] at hlarge
    cases hlarge

/-- A run that goes on has not converged at its iterate. -/
theorem Run.unconverged_of_running {p : Problem α n} {s : Settings α} {r q : Run α n}
    (h : r.step p s = .running q) : p.Unconverged s r.workspace.iterate := by
  have hcase : StepCase p s r (r.step p s) := step_cases p s r
  rw [h] at hcase
  cases hcase with
  | searched goesOn factored large => exact Problem.unconverged_of_large goesOn factored large

/-- **A solution with a status other than `maxIterations` has converged**, and its partition is the
one at the returned point. -/
theorem Ending.converged {w : Workspace α n} {s : Settings α} {p : Problem α n} {start : Vec α n}
    {sol : Solution α n} (h : Ending w s p start sol) (hstatus : sol.status ≠ .maxIterations) :
    sol.partition = p.split sol.x ∧ p.Converged s sol.x sol.status := by
  cases h with
  | idle budget => exact absurd rfl hstatus
  | @stopped k r q status budget reached stops =>
    obtain ⟨hiterate, hpart⟩ := Run.fields_of_stopped stops
    have hconverged := Run.converged_of_stopped stops
    rw [← hiterate] at hpart hconverged
    exact ⟨hpart, hconverged⟩
  | exhausted budget reached goesOn => exact absurd rfl hstatus

end ProjectedNewton
