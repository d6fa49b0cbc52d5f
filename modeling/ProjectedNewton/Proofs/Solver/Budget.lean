import ProjectedNewton.Proofs.Exact.Newton

/-!
# Budgets compose

A solve that has used up a budget of `k` iterations can be continued by a solve with a budget of `m`
from the point that it returned. The result is that of one solve with the budget `k + m`, apart from
one case: if the second solve stops before its first Newton step, it makes a factorization that the
long solve does not make. That factorization may fail, and otherwise its inverse is the only
difference.

Nothing is asked of the arithmetic but that a projected point is not moved by another projection.
-/

namespace ProjectedNewton

variable {α : Type} [Scalar α] {n : Nat}

/-- The solution of a solve that goes on for longer, from the solution `A` after `k` iterations and
the solution `B` of a solve that starts where the first one ended. -/
def Solution.continued (A : Solution α n) (k : Nat) (B : Solution α n) : Solution α n :=
  { B with
    iterations := k + B.iterations
    inverse := if 1 ≤ k ∧ B.iterations = 1 ∧ (B.status = .gradient ∨ B.status = .clamped) then
      A.inverse else B.inverse }

namespace Problem

/-- The outcomes of solves with the budgets `k`, `m` and `k + m`, with any history of the solvers.
The second one starts where the first one ended. -/
structure BudgetsCompose (p : Problem α n) (s : Settings α) (start : Vec α n) (k m : Nat) :
    Prop where
  /-- A failure within the first budget is not avoided by a larger one. -/
  failed {memory memory' : Memory α n} {e : FactorizationError α} :
    Solver.Breaks ⟨n, { s with maxIterations := k }, memory⟩ p start e →
      Solver.Breaks ⟨n, { s with maxIterations := k + m }, memory'⟩ p start e
  /-- A solve that has converged within the first budget does not use a larger one. -/
  converged {memory memory' : Memory α n} {A : Solution α n} :
    Solver.Returns ⟨n, { s with maxIterations := k }, memory⟩ p start A →
      A.status ≠ .maxIterations →
        Solver.Returns ⟨n, { s with maxIterations := k + m }, memory'⟩ p start A
  /-- Otherwise the two solves make one together. -/
  continued {memory memory' memory'' : Memory α n} {A B : Solution α n} :
    Solver.Returns ⟨n, { s with maxIterations := k }, memory⟩ p start A →
      A.status = .maxIterations →
        Solver.Returns ⟨n, { s with maxIterations := m }, memory'⟩ p A.x B →
          Solver.Returns ⟨n, { s with maxIterations := k + m }, memory''⟩ p start
            (A.continued k B)
  /-- If the second solve fails, so does the long one, or it stops before the Newton step in which
  the second one has failed. -/
  interrupted {memory memory' memory'' : Memory α n} {A : Solution α n}
    {e : FactorizationError α} :
    Solver.Returns ⟨n, { s with maxIterations := k }, memory⟩ p start A →
      A.status = .maxIterations →
        Solver.Breaks ⟨n, { s with maxIterations := m }, memory'⟩ p A.x e →
          Solver.Breaks ⟨n, { s with maxIterations := k + m }, memory''⟩ p start e ∨
            1 ≤ k ∧ Solver.Returns ⟨n, { s with maxIterations := k + m }, memory''⟩ p start
              ⟨A.x, p.split A.x, A.inverse, k + 1, .gradient⟩

variable {p : Problem α n} {s : Settings α} {start : Vec α n} {k m : Nat} {memory : Memory α n}

/-! ## Outcomes of solves -/

theorem returns_withBudget {sol : Solution α n} :
    Solver.Returns ⟨n, { s with maxIterations := m }, memory⟩ p start sol ↔
      p.outcome s start m = .ok sol :=
  Solver.returns_iff

theorem breaks_withBudget {e : FactorizationError α} :
    Solver.Breaks ⟨n, { s with maxIterations := m }, memory⟩ p start e ↔
      p.outcome s start m = .error e :=
  Solver.breaks_iff

/-! ## The second solve -/

section Resumed

variable {q : Run α n} (hproject : ∀ x, p.project (p.project x) = p.project x) (hm : m ≠ 0)
  (hq : (Run.start (Workspace.fresh n) p start).advance p s k = .running q)
include hproject hm hq

/-- A second solve that takes a Newton step does what the long one does, but for the count. -/
theorem outcome_of_newton (hgoes : p.stopStatus? s q.workspace.iterate = none) :
    p.outcome s start (k + m)
      = (p.outcome s q.workspace.iterate m).map (Solution.later k) ∧
    ∀ B, p.outcome s q.workspace.iterate m = .ok B → B.iterations = 1 →
      ¬(B.status = .gradient ∨ B.status = .clamped) := by
  -- The second solve starts at the point where the first one ended.
  have hx : (Run.start (Workspace.fresh n) p q.workspace.iterate).workspace.iterate
      = q.workspace.iterate :=
    project_eq_of_reaches hproject ⟨q, hq, rfl⟩
  obtain ⟨i, rfl⟩ : ∃ i, m = i + 1 := Nat.exists_eq_succ_of_ne_zero hm
  rw [outcome_add_of_running hq hm, outcome_of_pos hm]
  constructor
  · have hcount : q.iterations = k + 0 := by
      rw [Run.iterations_of_advance hq]
      exact Nat.add_comm 0 k
    exact (Run.advance_resumed hx.symm hcount hgoes i).outcome
  · intro B hB hfirst
    exact Run.status_of_first (hx.symm ▸ hgoes) hB hfirst

/-- A second solve that stops before its Newton step makes a factorization. The long one stops with
the inverse that it has. -/
theorem outcome_of_stops (hk : k ≠ 0) {status : Status}
    (hstop : p.stopStatus? s q.workspace.iterate = some status) :
    p.outcome s start (k + m) = .ok ⟨q.workspace.iterate, p.split q.workspace.iterate,
      q.workspace.inverse, k + 1, status⟩ ∧
    p.outcome s q.workspace.iterate m = p.stoppedAt s q.workspace.iterate status := by
  have hprojected : p.project q.workspace.iterate = q.workspace.iterate :=
    project_eq_of_reaches hproject ⟨q, hq, rfl⟩
  constructor
  · have hcount : q.iterations = k := by
      rw [Run.iterations_of_advance hq]
      exact Nat.zero_add k
    have hstep := Run.step_of_stops_later hstop (by omega)
    obtain ⟨i, rfl⟩ : ∃ i, m = i + 1 := Nat.exists_eq_succ_of_ne_zero hm
    rw [outcome_add_of_running hq hm, Run.advance_of_ended (by simp [hstep]), hstep, ← hcount]
    rfl
  · exact outcome_of_stopStatus? hprojected hm hstop

end Resumed

/-! ## Both solves -/

/-- A solve that has used up its budget was a run that could have gone on. -/
theorem exists_running_of_outcome {A : Solution α n} (hk : k ≠ 0)
    (h : p.outcome s start k = .ok A) (hstatus : A.status = .maxIterations) :
    ∃ q, (Run.start (Workspace.fresh n) p start).advance p s k = .running q ∧
      A = q.solution .maxIterations := by
  rw [outcome_of_pos hk] at h
  cases hend : (Run.start (Workspace.fresh n) p start).advance p s k with
  | running q =>
    rw [hend] at h
    cases h
    exact ⟨q, rfl, rfl⟩
  | broken q e =>
    rw [hend] at h
    cases h
  | stopped q status =>
    rw [hend] at h
    cases h
    change status = .maxIterations at hstatus
    subst hstatus
    obtain ⟨j, -, r, -, hstep⟩ := Run.exists_step_of_advance (by simp) hend
    cases Run.converged_of_stopped hstep

/-- An outcome that is not that of a used-up budget does not depend on the budget any more. -/
theorem outcome_add_of_outcome {outcome : Except (FactorizationError α) (Solution α n)}
    (h : p.outcome s start k = outcome)
    (hended : ∀ A, outcome = .ok A → A.status ≠ .maxIterations) (hm : m ≠ 0) :
    p.outcome s start (k + m) = outcome := by
  rcases Nat.eq_zero_or_pos k with rfl | hk
  · rw [outcome_zero] at h
    exact absurd rfl (hended _ h.symm)
  · rw [outcome_of_pos (by omega)] at h
    cases hend : (Run.start (Workspace.fresh n) p start).advance p s k with
    | running q =>
      rw [hend] at h
      exact absurd rfl (hended _ h.symm)
    | stopped q status =>
      rw [outcome_add_of_ended (by simp) hend hm, ← h, hend]
    | broken q e =>
      rw [outcome_add_of_ended (by simp) hend hm, ← h, hend]

/-- A factorization in no coordinates does not fail, so only a flat gradient stops an iteration
where none can be made. -/
theorem status_eq_gradient_of_singular {x : Vec α n} {status : Status}
    (hstop : p.stopStatus? s x = some status) (hF : p.factorizeAt? s x = none) :
    status = .gradient := by
  rcases status_of_stopStatus? hstop with rfl | rfl
  · rfl
  · cases converged_of_stopStatus? hstop with
    | clamped full => exact absurd full (free_ne_nil_of_singular hF)

/-- What becomes of the outcome of the second solve in the long one, for the solution `A` of the
first one. -/
inductive Composes (p : Problem α n) (A : Solution α n) (k : Nat) :
    (second long : Except (FactorizationError α) (Solution α n)) → Prop
  | returns (B : Solution α n) : Composes p A k (.ok B) (.ok (A.continued k B))
  | breaks (e : FactorizationError α) : Composes p A k (.error e) (.error e)
  | stops (e : FactorizationError α) (hk : 1 ≤ k) :
    Composes p A k (.error e) (.ok ⟨A.x, p.split A.x, A.inverse, k + 1, .gradient⟩)

/-- Without a first iteration, the second solve is the long one. -/
theorem composes_of_idle {A : Solution α n}
    {outcome : Except (FactorizationError α) (Solution α n)} : p.Composes A 0 outcome outcome := by
  cases outcome with
  | error e => exact .breaks e
  | ok B =>
    have hsame : A.continued 0 B = B := by
      unfold Solution.continued
      rw [if_neg fun h => absurd h.1 (Nat.not_succ_le_zero 0), Nat.zero_add]
    have hreturns := Composes.returns (p := p) (A := A) (k := 0) B
    rw [hsame] at hreturns
    exact hreturns

/-- A second solve that takes a Newton step first only has the iterations counted on. -/
theorem composes_of_later {A : Solution α n}
    {outcome : Except (FactorizationError α) (Solution α n)}
    (hfirst : ∀ B, outcome = .ok B → B.iterations = 1 →
      ¬(B.status = .gradient ∨ B.status = .clamped)) :
    p.Composes A k outcome (outcome.map (Solution.later k)) := by
  cases outcome with
  | error e => exact .breaks e
  | ok B =>
    have hsame : A.continued k B = B.later k := by
      unfold Solution.continued
      rw [if_neg fun h => hfirst B rfl h.2.1 h.2.2]
      rfl
    have hreturns := Composes.returns (p := p) (A := A) (k := k) B
    rw [hsame] at hreturns
    exact hreturns

/-- A second solve that stops before its Newton step has made a factorization or has failed. The
long one has the inverse of the first one. -/
theorem composes_of_stoppedAt {A : Solution α n} {status : Status} (hk : k ≠ 0)
    (hstop : p.stopStatus? s A.x = some status) :
    p.Composes A k (p.stoppedAt s A.x status)
      (.ok ⟨A.x, p.split A.x, A.inverse, k + 1, status⟩) := by
  have hk' : 1 ≤ k := Nat.one_le_iff_ne_zero.mpr hk
  unfold stoppedAt
  cases hF : p.factorizeAt s A.x with
  | error e =>
    rw [status_eq_gradient_of_singular hstop (factorizeAt?_eq_none hF)]
    exact .stops _ hk'
  | ok F =>
    have hreturns := Composes.returns (p := p) (A := A) (k := k)
      ⟨A.x, p.split A.x, ⟨_, F.inverse⟩, 1, status⟩
    unfold Solution.continued at hreturns
    rw [if_pos ⟨hk', rfl, status_of_stopStatus? hstop⟩] at hreturns
    exact hreturns

/-- The second solve and the long one, after a first solve that has used up its budget. -/
theorem composes_of_exhausted {A : Solution α n}
    (hproject : ∀ x, p.project (p.project x) = p.project x) (hm : m ≠ 0)
    (hA : p.outcome s start k = .ok A) (hstatus : A.status = .maxIterations) :
    p.Composes A k (p.outcome s A.x m) (p.outcome s start (k + m)) := by
  by_cases hk : k = 0
  · subst hk
    rw [outcome_zero] at hA
    have hx : A.x = p.project start := congrArg Solution.x (Except.ok.inj hA).symm
    rw [Nat.zero_add, hx, outcome_of_project (hproject start)]
    exact composes_of_idle
  · obtain ⟨q, hq, rfl⟩ := exists_running_of_outcome hk hA hstatus
    show p.Composes _ k (p.outcome s q.workspace.iterate m) _
    cases hstop : p.stopStatus? s q.workspace.iterate with
    | none =>
      obtain ⟨hlong, hfirst⟩ := outcome_of_newton hproject hm hq hstop
      rw [hlong]
      exact composes_of_later hfirst
    | some status =>
      obtain ⟨hlong, hsecond⟩ := outcome_of_stops hproject hm hq hk hstop
      rw [hlong, hsecond]
      exact composes_of_stoppedAt hk hstop

/-- **Budgets compose.** -/
theorem budgetsCompose_of_project (hproject : ∀ x, p.project (p.project x) = p.project x)
    (hm : 1 ≤ m) : p.BudgetsCompose s start k m := by
  have hm' : m ≠ 0 := Nat.one_le_iff_ne_zero.mp hm
  refine ⟨?_, ?_, ?_, ?_⟩
  · intro memory memory' e hA
    rw [breaks_withBudget] at hA ⊢
    exact outcome_add_of_outcome hA nofun hm'
  · intro memory memory' A hA hstatus
    rw [returns_withBudget] at hA ⊢
    refine outcome_add_of_outcome hA ?_ hm'
    rintro A' ⟨⟩
    exact hstatus
  · intro memory memory' memory'' A B hA hstatus hB
    rw [returns_withBudget] at hA hB ⊢
    have hcomposes := composes_of_exhausted hproject hm' hA hstatus
    rw [hB] at hcomposes
    generalize p.outcome s start (k + m) = long at hcomposes
    cases hcomposes with
    | returns B => rfl
  · intro memory memory' memory'' A e hA hstatus hB
    rw [returns_withBudget] at hA
    rw [breaks_withBudget] at hB
    rw [breaks_withBudget, returns_withBudget]
    have hcomposes := composes_of_exhausted hproject hm' hA hstatus
    rw [hB] at hcomposes
    generalize p.outcome s start (k + m) = long at hcomposes
    cases hcomposes with
    | breaks e => exact Or.inl rfl
    | stops e hk => exact Or.inr ⟨hk, rfl⟩

/-- The two solves of the corner and the long one. The second one has made a factorization in both
coordinates, the long one has that of the only free coordinate of its first iteration. -/
theorem budgetsCompose_corner : ∃ A B W,
    Solver.Returns ⟨2, Settings.quarter 1, .fresh 2 none⟩ corner (Vec.zero 2) A ∧
    Solver.Returns ⟨2, Settings.quarter 1, .fresh 2 none⟩ corner A.x B ∧
    Solver.Returns ⟨2, Settings.quarter 2, .fresh 2 none⟩ corner (Vec.zero 2) W ∧
    A.status = .maxIterations ∧ B.status = .gradient ∧ W = A.continued 1 B ∧
    W.iterations = 2 ∧ W.inverse = A.inverse ∧ A.inverse.size = 1 ∧ B.inverse.size = 2 := by
  obtain ⟨F, -, hA⟩ := outcome_corner (m := 1)
  obtain ⟨G, -, hB⟩ := outcome_cornerMinimum (m := 1) one_ne_zero
  have hA' : Solver.Returns ⟨2, Settings.quarter 1, .fresh 2 none⟩ corner (Vec.zero 2) _ :=
    returns_withBudget (s := Settings.quarter 1).mpr hA
  have hB' : Solver.Returns ⟨2, Settings.quarter 1, .fresh 2 none⟩ corner cornerMinimum _ :=
    returns_withBudget (s := Settings.quarter 1).mpr hB
  have hcompose : corner.BudgetsCompose (Settings.quarter 1) (Vec.zero 2) 1 1 :=
    budgetsCompose_of_project corner.project_project le_rfl
  have hW : Solver.Returns ⟨2, Settings.quarter 2, .fresh 2 none⟩ corner (Vec.zero 2) _ :=
    hcompose.continued hA' rfl hB'
  refine ⟨_, _, _, hA', hB', hW, rfl, rfl, rfl, rfl, rfl, ?_, ?_⟩
  · show (corner.split (Vec.zero 2)).free.length = 1
    rw [free_corner]
    rfl
  · show (corner.split cornerMinimum).free.length = 2
    rw [free_cornerMinimum]
    rfl

/-- With two iterations, the solution has the partition of the minimum, where both coordinates are
free, and the inverse from before the step, when only one of them was. -/
theorem outcome_bend_two (c : ℤ) : ∃ F : Factorization ℝ ((bend c).split (Vec.zero 2)).free.length,
    (bend c).outcome (Settings.quarter 2) (Vec.zero 2) 2 = .ok
      ⟨cornerMinimum, (bend c).split cornerMinimum, ⟨_, F.inverse⟩, 2, .gradient⟩ := by
  obtain ⟨F, -, hA⟩ := outcome_bend c 2
  obtain ⟨q, hq, hsolution⟩ := exists_running_of_outcome one_ne_zero hA rfl
  have hx : q.workspace.iterate = cornerMinimum := (congrArg Solution.x hsolution).symm
  have hinverse : q.workspace.inverse = ⟨_, F.inverse⟩ :=
    (congrArg Solution.inverse hsolution).symm
  have hstop : (bend c).stopStatus? (Settings.quarter 2) q.workspace.iterate = some .gradient := by
    rw [hx, stopStatus?_bend entry_zero_cornerMinimum, stopStatus?_cornerMinimum]
  have hlong := (outcome_of_stops (bend c).project_project one_ne_zero hq one_ne_zero hstop).1
  rw [hx, hinverse] at hlong
  exact ⟨F, hlong⟩

/-- With two iterations, the solution of the corner has two free coordinates and the inverse of
one. -/
theorem outcome_corner_two : ∃ W,
    corner.outcome (Settings.quarter 2) (Vec.zero 2) 2 = .ok W ∧
      W.partition.free = [0, 1] ∧ W.inverse.size = 1 := by
  obtain ⟨F, hF⟩ := outcome_bend_two 5
  exact ⟨_, hF, free_cornerMinimum, congrArg List.length free_corner⟩

end Problem

end ProjectedNewton
