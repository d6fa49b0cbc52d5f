import ProjectedNewton.Proofs.Run.Iterates

/-!
# Where the parts of a solution come from

The point, the partition and the inverse that a run returns need not belong to the same iterate. The
point is the last iterate. The partition is that of the last iteration, which may have moved the
point since. The inverse is the one that the last factorization has made: an iteration that stops
before the Newton step makes none, unless it is the first one, so that the inverse may belong to the
iterate before the returned point, whose free coordinates need not be those that are returned.

* `Problem.Origin` lists the ways in which a solution can be put together, and `Ending.origin` says
  that there are no others.
* `Problem.InverseFor` says for which partition an inverse was made, `Ending.provenance` what it can
  be after at least one iteration.
* `Problem.Settled` says that the last iteration has left the free coordinates as they were, and
  `Ending.inverseFor_of_settled` that the inverse then belongs to what is returned.
-/

namespace ProjectedNewton

variable {α : Type} [Scalar α] {n : Nat}

/-! ## Iterates and solutions -/

/-- The iterates to which the parts of a solution belong. -/
inductive Problem.Origin (p : Problem α n) (s : Settings α) (start : Vec α n) :
    Solution α n → Prop
  /-- No iteration was allowed: the projected start, its partition and no inverse. -/
  | idle (budget : s.maxIterations = 0) :
    Origin p s start ⟨p.project start, p.split (p.project start), .empty, 0, .maxIterations⟩
  /-- An iteration at `x` has converged with an inverse of its own, because its Newton step is short
  or because it is the first one. -/
  | own {k : Nat} {x : Vec α n} {F : Factorization α (p.split x).free.length} {status : Status}
      (budget : k < s.maxIterations) (reached : p.Reaches s start k x)
      (factored : p.factorizeAt? s x = some F)
      (converged : status = .step ∨ k = 0 ∧ (status = .gradient ∨ status = .clamped)) :
    Origin p s start ⟨x, p.split x, ⟨_, F.inverse⟩, k + 1, status⟩
  /-- A later iteration at `x` has converged before its Newton step, with the inverse that was made
  at the iterate `y` before. -/
  | before {k : Nat} {x y : Vec α n} {F : Factorization α (p.split y).free.length}
      {status : Status} (budget : k + 1 < s.maxIterations) (reached : p.Reaches s start (k + 1) x)
      (previous : p.Reaches s start k y) (factored : p.factorizeAt? s y = some F)
      (converged : status = .gradient ∨ status = .clamped) :
    Origin p s start ⟨x, p.split x, ⟨_, F.inverse⟩, k + 2, status⟩
  /-- The last iteration of the budget has led from `y` to `x`, with the partition and an inverse
  of `y`. -/
  | exhausted {k : Nat} {x y : Vec α n} {F : Factorization α (p.split y).free.length}
      (budget : s.maxIterations = k + 1) (reached : p.Reaches s start (k + 1) x)
      (previous : p.Reaches s start k y) (factored : p.factorizeAt? s y = some F) :
    Origin p s start ⟨x, p.split y, ⟨_, F.inverse⟩, k + 1, .maxIterations⟩

variable {p : Problem α n} {s : Settings α} {start : Vec α n}

/-- An iteration that goes on keeps the partition and an inverse of the iterate it came from. -/
theorem Run.solution_of_running {r q : Run α n} (h : r.step p s = .running q) (status : Status) :
    ∃ F, p.factorizeAt? s r.workspace.iterate = some F ∧ q.solution status
      = ⟨q.workspace.iterate, p.split r.workspace.iterate, ⟨_, F.inverse⟩, r.iterations + 1,
          status⟩ := by
  have hcase : StepCase p s r (r.step p s) := step_cases p s r
  rw [h] at hcase
  cases hcase with
  | searched goesOn factored large =>
    refine ⟨_, factored, ?_⟩
    rw [solution_descend_direct, descend_direct_iterate]

/-- **Every returned solution has its origin in the iterates of its run.** -/
theorem Ending.origin {sol : Solution α n} (h : Ending (Workspace.fresh n) s p start sol) :
    p.Origin s start sol := by
  cases h with
  | idle budget => exact .idle budget
  | @stopped k r q status budget reached stops =>
    have hcount : r.iterations = 0 + k := Run.iterations_of_advance reached
    have hcase : Run.StepCase p s r (r.step p s) := Run.step_cases p s r
    rw [stops] at hcase
    cases hcase with
    | stopsFirst stopped first factored =>
      obtain rfl : k = 0 := by omega
      have horigin := Problem.Origin.own budget ⟨r, reached, rfl⟩ factored
        (Or.inr ⟨rfl, Problem.status_of_stopStatus? stopped⟩)
      rwa [← first] at horigin
    | stopsLater stopped later =>
      obtain ⟨j, rfl⟩ : ∃ j, k = j + 1 := Nat.exists_eq_succ_of_ne_zero (by omega)
      obtain ⟨r', hr', hstep⟩ := Run.advance_succ_running_iff.mp reached
      obtain ⟨F, hF, hsolution⟩ := Run.solution_of_running hstep status
      have horigin := Problem.Origin.before budget ⟨r, reached, rfl⟩ ⟨r', hr', rfl⟩ hF
        (Problem.status_of_stopStatus? stopped)
      -- The iteration that stops has changed nothing but the partition and the count.
      have hinverse : r.workspace.inverse = ⟨_, F.inverse⟩ := congrArg Solution.inverse hsolution
      have htotal : r.iterations + 1 = j + 2 := by omega
      rw [← hinverse, ← htotal] at horigin
      exact horigin
    | short goesOn factored small =>
      have horigin := Problem.Origin.own budget ⟨r, reached, rfl⟩ factored (Or.inl rfl)
      have htotal : r.iterations + 1 = k + 1 := by omega
      rw [← htotal] at horigin
      exact horigin
  | @exhausted k r q budget reached goesOn =>
    have hcount : r.iterations = 0 + k := Run.iterations_of_advance reached
    have hq : (Run.start (Workspace.fresh n) p start).advance p s (k + 1) = .running q :=
      Run.advance_succ_running_iff.mpr ⟨r, reached, goesOn⟩
    obtain ⟨F, hF, hsolution⟩ := Run.solution_of_running goesOn .maxIterations
    rw [hsolution, hcount, Nat.zero_add]
    exact .exhausted budget ⟨q, hq, rfl⟩ ⟨r, reached, rfl⟩ hF

/-! ## The inverse -/

/-- An inverse that was made for the free coordinates of a partition. -/
def Problem.InverseFor (p : Problem α n) (s : Settings α) (part : Partition n)
    (inverse : Square α) : Prop :=
  ∃ F, p.factorizeFree? part s.regularization = some F ∧ inverse = ⟨part.free.length, F.inverse⟩

/-- Only the free coordinates matter to an inverse. -/
theorem Problem.InverseFor.of_free_eq {part part' : Partition n}
    {inverse : Square α} (h : p.InverseFor s part inverse) (hfree : part.free = part'.free) :
    p.InverseFor s part' inverse := by
  obtain ⟨free, clamped⟩ := part
  obtain ⟨free', clamped'⟩ := part'
  change free = free' at hfree
  subst hfree
  exact h

/-- The sources of the inverse of a solution. -/
inductive Problem.Provenance (p : Problem α n) (s : Settings α) (start : Vec α n)
    (sol : Solution α n) : Prop
  /-- The inverse was made for the returned partition. -/
  | own (made : p.InverseFor s sol.partition sol.inverse)
  /-- The run stopped before the Newton step of a later iteration, and the inverse was made in the
  iteration before. -/
  | before {k : Nat} {y : Vec α n} (later : sol.iterations = k + 2)
      (status : sol.status = .gradient ∨ sol.status = .clamped) (reached : p.Reaches s start k y)
      (made : p.InverseFor s (p.split y) sol.inverse)

/-- **The inverse was made for the returned partition or in the iteration before.** -/
theorem Ending.provenance {sol : Solution α n} (h : Ending (Workspace.fresh n) s p start sol)
    (hm : s.maxIterations ≠ 0) : p.Provenance s start sol := by
  cases h.origin with
  | idle budget => exact absurd budget hm
  | own budget reached factored converged => exact .own ⟨_, factored, rfl⟩
  | before budget reached previous factored converged =>
    exact .before rfl converged previous ⟨_, factored, rfl⟩
  | exhausted budget reached previous factored => exact .own ⟨_, factored, rfl⟩

/-- The returned partition is the split at some point. -/
theorem Ending.exists_split {sol : Solution α n} (h : Ending (Workspace.fresh n) s p start sol) :
    ∃ x, sol.partition = p.split x := by
  cases h.origin with
  | idle budget => exact ⟨_, rfl⟩
  | own budget reached factored converged => exact ⟨_, rfl⟩
  | before budget reached previous factored converged => exact ⟨_, rfl⟩
  | exhausted budget reached previous factored => exact ⟨_, rfl⟩

/-- After at least one iteration, it is the split at a point from which an iteration has started. -/
theorem Ending.exists_reaches_split {sol : Solution α n}
    (h : Ending (Workspace.fresh n) s p start sol) (hm : s.maxIterations ≠ 0) :
    ∃ k < s.maxIterations, ∃ x, p.Reaches s start k x ∧ sol.partition = p.split x := by
  cases h.origin with
  | idle budget => exact absurd budget hm
  | own budget reached factored converged => exact ⟨_, budget, _, reached, rfl⟩
  | before budget reached previous factored converged => exact ⟨_, budget, _, reached, rfl⟩
  | exhausted budget reached previous factored => exact ⟨_, by omega, _, previous, rfl⟩

/-- The last iteration has not changed the free coordinates: if the run stopped on a flat gradient
in a later iteration, then they are those of the iterate before. -/
def Problem.Settled (p : Problem α n) (s : Settings α) (start : Vec α n) (sol : Solution α n) :
    Prop :=
  ∀ (k : Nat) (y : Vec α n), sol.iterations = k + 2 → sol.status = .gradient →
    p.Reaches s start k y → (p.split y).free = sol.partition.free

/-- **The inverse belongs to the returned partition** if the last iteration has not changed the free
coordinates and there are any. -/
theorem Ending.inverseFor_of_settled {sol : Solution α n}
    (h : Ending (Workspace.fresh n) s p start sol) (hm : s.maxIterations ≠ 0)
    (hsettled : p.Settled s start sol) (hfree : sol.partition.free ≠ []) :
    p.InverseFor s sol.partition sol.inverse := by
  cases h.provenance hm with
  | own made => exact made
  | before later status reached made =>
    rcases status with hgradient | hclamped
    · exact made.of_free_eq (hsettled _ _ later hgradient reached)
    · -- With this status no coordinate is free.
      obtain ⟨hpart, hconverged⟩ := h.converged (by rw [hclamped]; nofun)
      rw [hclamped] at hconverged
      cases hconverged with
      | clamped full =>
        rw [hpart] at hfree
        exact absurd full hfree

end ProjectedNewton
