import ProjectedNewton.Proofs.Run.Iterates

/-!
# Runs that are continued

A run that has used up its budget can be continued in two ways: with a larger budget, or by a new
run from the point where it ended. The new run counts its iterations from zero and has no inverse
yet. From its second iteration on this makes no difference, and neither does it in a first iteration
that takes a Newton step. Only a first iteration that stops before the Newton step is different: the
new run factorizes once more, while the old one still has the inverse of its last factorization.

* `Run.Follows k r r'` says that `r` is the run `r'` with `k` more iterations counted.
* `Progress.Follows` carries this over to the ends of runs, and `Run.advance_follows` is the
  simulation.
* `Run.advance_resumed` and `Problem.outcome_of_stopStatus?` are the two cases of a first iteration.
-/

namespace ProjectedNewton

variable {α : Type} [Scalar α] {n : Nat}

/-- A solution after `k` more iterations. -/
def Solution.later (k : Nat) (sol : Solution α n) : Solution α n :=
  { sol with iterations := k + sol.iterations }

/-- The run `r` goes on like `r'`, which has taken at least one iteration, and has counted `k`
iterations more. -/
structure Run.Follows (k : Nat) (r r' : Run α n) : Prop where
  iterate : r.workspace.iterate = r'.workspace.iterate
  partition : r.partition = r'.partition
  inverse : r.workspace.inverse = r'.workspace.inverse
  iterations : r.iterations = k + r'.iterations
  later : r'.iterations ≠ 0

/-- Two runs are both going on, have both stopped or have both broken down, and the one follows the
other. -/
inductive Progress.Follows (k : Nat) : Progress α n → Progress α n → Prop
  | running {r r' : Run α n} (h : r.Follows k r') : Follows k (.running r) (.running r')
  | stopped {r r' : Run α n} (h : r.Follows k r') (status : Status) :
    Follows k (.stopped r status) (.stopped r' status)
  | broken (r r' : Run α n) (e : FactorizationError α) : Follows k (.broken r e) (.broken r' e)

omit [Scalar α] in
theorem Run.Follows.solution {k : Nat} {r r' : Run α n} (h : r.Follows k r') (status : Status) :
    r.solution status = (r'.solution status).later k := by
  unfold Run.solution Solution.later
  rw [h.iterate, h.partition, h.inverse, h.iterations]

omit [Scalar α] in
/-- What follows another run comes to the same, but for the count. -/
theorem Progress.Follows.outcome {k : Nat} {e e' : Progress α n} (h : e.Follows k e') :
    e.report.outcome = e'.report.outcome.map (Solution.later k) := by
  cases h with
  | running h => exact congrArg Except.ok (h.solution .maxIterations)
  | stopped h status => exact congrArg Except.ok (h.solution status)
  | broken r r' e => rfl

namespace Run

variable {p : Problem α n} {s : Settings α} {r r' : Run α n} {k m : Nat}

/-! ## One iteration -/

/-- After a Newton step nothing of the past matters but the iterate from which it was taken. -/
theorem newton_follows (hx : r.workspace.iterate = r'.workspace.iterate)
    (hk : r.iterations = k + r'.iterations) :
    Progress.Follows k ((r.observe p).newton p s) ((r'.observe p).newton p s) := by
  obtain ⟨⟨x, c, g, d, i⟩, part, j, t⟩ := r
  obtain ⟨⟨x', c', g', d', i'⟩, part', j', t'⟩ := r'
  dsimp only at hx hk
  subst hx hk
  cases hF : p.factorizeAt s x with
  | error e =>
    rw [newton_of_error p s ⟨⟨x, c, g, d, i⟩, part, k + j', t⟩ hF,
      newton_of_error p s ⟨⟨x, c', g', d', i'⟩, part', j', t'⟩ hF]
    exact .broken _ _ _
  | ok F =>
    have hsome : p.factorizeAt? s x = some F := Problem.factorizeAt?_eq_some hF
    rw [newton_of_some p s ⟨⟨x, c, g, d, i⟩, part, k + j', t⟩ hsome,
      newton_of_some p s ⟨⟨x, c', g', d', i'⟩, part', j', t'⟩ hsome]
    dsimp only
    split
    · refine .stopped ?_ .step
      exact ⟨rfl, rfl, rfl, Nat.add_assoc k j' 1, Nat.succ_ne_zero j'⟩
    · refine .running ⟨?_, ?_, ?_, ?_, ?_⟩
      · rw [descend_direct_iterate, descend_direct_iterate]
      · rw [descend_direct_partition, descend_direct_partition]
      · rw [descend_direct_inverse, descend_direct_inverse]
      · rw [descend_direct_iterations, descend_direct_iterations]
        exact Nat.add_assoc k j' 1
      · rw [descend_direct_iterations]
        exact Nat.succ_ne_zero j'

/-- **A run that follows another one goes on following it.** -/
theorem step_follows (h : r.Follows k r') : Progress.Follows k (r.step p s) (r'.step p s) := by
  cases hstop : p.stopStatus? s r'.workspace.iterate with
  | some status =>
    have hr : r.iterations ≠ 0 := by
      have hcount := h.iterations
      have hlater := h.later
      omega
    rw [step_of_stops_later (h.iterate ▸ hstop) hr, step_of_stops_later hstop h.later]
    refine .stopped ?_ status
    refine ⟨h.iterate, ?_, h.inverse, ?_, Nat.succ_ne_zero _⟩
    · show p.split r.workspace.iterate = p.split r'.workspace.iterate
      rw [h.iterate]
    · show r.iterations + 1 = k + (r'.iterations + 1)
      rw [h.iterations, Nat.add_assoc]
  | none =>
    rw [step_eq, step_eq, h.iterate, hstop]
    exact newton_follows h.iterate h.iterations

/-! ## The rest of a run -/

theorem advance_follows (h : r.Follows k r') (m : Nat) :
    Progress.Follows k (r.advance p s m) (r'.advance p s m) := by
  induction m generalizing r r' with
  | zero => exact .running h
  | succ m ih =>
    have hstep : Progress.Follows k (r.step p s) (r'.step p s) := step_follows h
    unfold advance
    generalize r.step p s = e, r'.step p s = e' at hstep
    cases hstep with
    | running h => exact ih h
    | stopped h status => exact .stopped h status
    | broken q q' e => exact .broken q q' e

/-- A run is continued by a new one from its iterate, if a Newton step is taken there. -/
theorem advance_resumed (hx : r.workspace.iterate = r'.workspace.iterate)
    (hk : r.iterations = k + r'.iterations) (hgoes : p.stopStatus? s r.workspace.iterate = none)
    (m : Nat) : Progress.Follows k (r.advance p s (m + 1)) (r'.advance p s (m + 1)) := by
  have hstep : Progress.Follows k (r.step p s) (r'.step p s) := by
    rw [step_eq, step_eq, ← hx, hgoes]
    exact newton_follows hx hk
  unfold advance
  generalize r.step p s = e, r'.step p s = e' at hstep
  cases hstep with
  | running h => exact advance_follows h m
  | stopped h status => exact .stopped h status
  | broken q q' e => exact .broken q q' e

/-- A first iteration that takes a Newton step does not end the run with the status `gradient` or
`clamped`. -/
theorem status_of_first {sol : Solution α n} (hgoes : p.stopStatus? s r.workspace.iterate = none)
    (h : (r.advance p s (m + 1)).report.outcome = .ok sol)
    (hfirst : sol.iterations = r.iterations + 1) :
    ¬(sol.status = .gradient ∨ sol.status = .clamped) := by
  cases hend : r.advance p s (m + 1) with
  | running q =>
    rw [hend] at h
    cases h
    simp [solution]
  | broken q e =>
    rw [hend] at h
    cases h
  | stopped q status =>
    rw [hend] at h
    cases h
    obtain ⟨j, -, r', hr', hstep⟩ := exists_step_of_advance (by simp) hend
    have hcount : q.iterations = r'.iterations + 1 := iterations_of_stopped hstep
    have hcount' : r'.iterations = r.iterations + j := iterations_of_advance hr'
    have hzero : j = 0 := by
      change q.iterations = r.iterations + 1 at hfirst
      omega
    subst hzero
    cases hr'
    have hcase : StepCase p s r (r.step p s) := step_cases p s r
    rw [hstep] at hcase
    cases hcase with
    | stopsFirst stops first factored => rw [hgoes] at stops; cases stops
    | stopsLater stops later => rw [hgoes] at stops; cases stops
    | short goesOn factored small => simp [solution]

theorem outcome_advance_one {F : Factorization α (p.split r.workspace.iterate).free.length}
    (hgoes : p.stopStatus? s r.workspace.iterate = none)
    (hF : p.factorizeAt? s r.workspace.iterate = some F)
    (hlarge : Scalar.lt (p.directionAt r.workspace.iterate F).maxAbs s.gradThreshold = false) :
    (r.advance p s 1).report.outcome
      = .ok ⟨(p.search s r.workspace.iterate F).landing, p.split r.workspace.iterate,
          ⟨_, F.inverse⟩, r.iterations + 1, .maxIterations⟩ := by
  rw [advance, step_of_newton hgoes hF hlarge]
  exact congrArg Except.ok (solution_descend_direct p s r F .maxIterations)

end Run

/-! ## What a run comes to -/

/-- What a run from `start` with the budget `m` comes to: a solution or an error. -/
def Problem.outcome (p : Problem α n) (s : Settings α) (start : Vec α n) (m : Nat) :
    Except (FactorizationError α) (Solution α n) :=
  ((Workspace.fresh n).solve { s with maxIterations := m } p start).2.outcome

namespace Problem

variable {p : Problem α n} {s : Settings α} {start : Vec α n} {k m : Nat} {q : Run α n}

theorem outcome_zero : p.outcome s start 0
    = .ok ⟨p.project start, p.split (p.project start), .empty, 0, .maxIterations⟩ :=
  rfl

/-- A run begins with a projection, so it does not matter whether its start is projected before. -/
theorem outcome_of_project {x : Vec α n} (hx : p.project x = p.project start) :
    p.outcome s x m = p.outcome s start m := by
  unfold outcome Workspace.solve
  rw [Run.start, Run.start, hx]

theorem outcome_of_pos (hm : m ≠ 0) : p.outcome s start m
    = ((Run.start (Workspace.fresh n) p start).advance p s m).report.outcome := by
  unfold outcome Workspace.solve
  dsimp only
  rw [if_neg hm, Run.advance_withBudget]

/-- What a run comes to that stops at its start `x`: it has made a factorization there, or has
failed to. -/
def stoppedAt (p : Problem α n) (s : Settings α) (x : Vec α n) (status : Status) :
    Except (FactorizationError α) (Solution α n) :=
  match p.factorizeAt s x with
  | .error e => .error e
  | .ok F => .ok ⟨x, p.split x, ⟨_, F.inverse⟩, 1, status⟩

theorem outcome_of_stopStatus? {x : Vec α n} {status : Status} (hx : p.project start = x)
    (hm : m ≠ 0) (hstop : p.stopStatus? s x = some status) :
    p.outcome s start m = p.stoppedAt s x status := by
  subst hx
  obtain ⟨i, rfl⟩ : ∃ i, m = i + 1 := Nat.exists_eq_succ_of_ne_zero hm
  rw [outcome_of_pos hm, stoppedAt]
  cases hF : p.factorizeAt s (p.project start) with
  | error e =>
    have hstep := Run.step_of_singular (r := Run.start (Workspace.fresh n) p start) hF (Or.inl rfl)
    rw [Run.advance_of_ended (by simp [hstep]), hstep]
    rfl
  | ok F =>
    have hstep := Run.step_of_stops (r := Run.start (Workspace.fresh n) p start) hstop rfl
      (factorizeAt?_eq_some hF)
    rw [Run.advance_of_ended (by simp [hstep]), hstep]
    rfl

/-- A run of one iteration ends with the line search of its Newton step. -/
theorem outcome_one_of_newton {x : Vec α n} {F : Factorization α (p.split x).free.length}
    (hx : p.project start = x) (hgoes : p.stopStatus? s x = none)
    (hF : p.factorizeAt? s x = some F)
    (hlarge : Scalar.lt (p.directionAt x F).maxAbs s.gradThreshold = false) : p.outcome s start 1
      = .ok ⟨(p.search s x F).landing, p.split x, ⟨_, F.inverse⟩, 1, .maxIterations⟩ := by
  subst hx
  rw [outcome_of_pos Nat.one_ne_zero]
  exact Run.outcome_advance_one (r := Run.start (Workspace.fresh n) p start) hgoes hF hlarge

/-- A larger budget does not change a run that has ended. -/
theorem outcome_add_of_ended {e : Progress α n} (he : ∀ q, e ≠ .running q)
    (h : (Run.start (Workspace.fresh n) p start).advance p s k = e) (hm : m ≠ 0) :
    p.outcome s start (k + m) = e.report.outcome := by
  rw [outcome_of_pos (by omega), Run.advance_add, h]
  cases e with
  | running q => exact absurd rfl (he q)
  | stopped q status => rfl
  | broken q e => rfl

/-- A larger budget lets a run that is still going on take its next iterations. -/
theorem outcome_add_of_running
    (h : (Run.start (Workspace.fresh n) p start).advance p s k = .running q) (hm : m ≠ 0) :
    p.outcome s start (k + m) = (q.advance p s m).report.outcome := by
  rw [outcome_of_pos (by omega), Run.advance_add, h]

/-- A run that stops within its budget comes to the solution at which it stopped. -/
theorem outcome_of_stopped {q' : Run α n} {status : Status}
    (h : (Run.start (Workspace.fresh n) p start).advance p s k = .running q)
    (hstop : q.step p s = .stopped q' status) (hk : k < m) :
    p.outcome s start m = .ok (q'.solution status) := by
  obtain ⟨i, rfl⟩ := Nat.exists_eq_add_of_lt hk
  rw [Nat.add_assoc, outcome_add_of_running h (Nat.succ_ne_zero i),
    Run.advance_of_ended (by simp [hstop]), hstop]
  rfl

/-- A run ends at its start if the Newton step is short there. -/
theorem outcome_of_short {x : Vec α n} {F : Factorization α (p.split x).free.length}
    (hx : p.project start = x) (hm : m ≠ 0) (hgoes : p.stopStatus? s x = none)
    (hF : p.factorizeAt? s x = some F)
    (hsmall : Scalar.lt (p.directionAt x F).maxAbs s.gradThreshold) :
    p.outcome s start m = .ok ⟨x, p.split x, ⟨_, F.inverse⟩, 1, .step⟩ := by
  subst hx
  have hstep := Run.step_of_short (r := Run.start (Workspace.fresh n) p start) hgoes hF hsmall
  have hreached : (Run.start (Workspace.fresh n) p start).advance p s 0
      = .running (Run.start (Workspace.fresh n) p start) := rfl
  exact outcome_of_stopped hreached hstep (Nat.pos_of_ne_zero hm)

end Problem

end ProjectedNewton
