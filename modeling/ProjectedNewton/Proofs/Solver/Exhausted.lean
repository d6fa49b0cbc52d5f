import ProjectedNewton.Proofs.Run.Iterates
import ProjectedNewton.Proofs.Solver.Outcome

/-!
# A rejected line search freezes a run

An iteration depends on the past through its iterate alone, apart from the first one, which
factorizes before it stops. An iteration whose line search accepts no step does not stop, and leaves
the iterate where it is. So the next one does the same, and so do all that follow, until the budget
is used up. No law of arithmetic is needed: the same numbers are computed again.

* `Problem.Rejects` says that an iteration at a point carries out its line search in vain.
* `Run.step_of_rejects` is one such iteration, `Run.advance_of_rejects` any number of them, and
  `Problem.Rejects.exists_finish` the rest of the budget.
* `Solver.freezes_of_rejects` is the main result, for the solve in which this happens.
-/

namespace ProjectedNewton

variable {α : Type} [Scalar α] {n : Nat}

/-- An iteration at `x` has not converged, and the line search along its Newton direction accepts
none of the step lengths. -/
structure Problem.Rejects (p : Problem α n) (s : Settings α) (x : Vec α n)
    (F : Factorization α (p.split x).free.length) : Prop where
  unconverged : p.Unconverged s x
  factored : p.factorizeAt? s x = some F
  rejected : (p.search s x F).acceptedLength = none

/-- What iteration number `k` at `x` reports if its line search accepts no step. -/
def Problem.exhaustedEvent (p : Problem α n) (x : Vec α n) (k : Nat) : Event α :=
  .searchExhausted k (p.value x) (p.gradient x).maxAbs (p.split x).clamped.length

namespace Run

variable {p : Problem α n} {s : Settings α} {r : Run α n}
  {F : Factorization α (p.split r.workspace.iterate).free.length}

/-! ## One iteration -/

/-- A line search that accepts no step reports this. -/
theorem trace_descend_direct (h : (p.search s r.workspace.iterate F).acceptedLength = none) :
    ((r.direct p F).descend p s).trace
      = r.trace.push (p.exhaustedEvent r.workspace.iterate (r.iterations + 1)) := by
  have hsearch : ((r.direct p F).lineSearch p s).acceptedLength = none := h
  unfold descend
  dsimp only
  rw [hsearch]
  rfl

/-- **An iteration whose line search accepts no step leaves the iterate where it is.** -/
theorem step_of_rejects (h : p.Rejects s r.workspace.iterate F) : ∃ q, r.step p s = .running q ∧
    q.workspace.iterate = r.workspace.iterate ∧ (∀ status, q.solution status
      = ⟨r.workspace.iterate, p.split r.workspace.iterate, ⟨_, F.inverse⟩, r.iterations + 1,
          status⟩) ∧
    q.trace = r.trace.push (p.exhaustedEvent r.workspace.iterate (r.iterations + 1)) := by
  obtain ⟨hunconverged, hF, hrejected⟩ := h
  have hlanding : (p.search s r.workspace.iterate F).landing = r.workspace.iterate := by
    unfold LineSearch.landing
    rw [hrejected]
    rfl
  refine ⟨_, step_of_newton hunconverged.stopStatus?_eq_none hF (hunconverged.large hF), ?_, ?_,
    trace_descend_direct hrejected⟩
  · rw [descend_direct_iterate, hlanding]
  · intro status
    rw [solution_descend_direct, hlanding]

/-! ## The rest of the run -/

/-- **All that follows is the same iteration**, which only counts on. -/
theorem advance_of_rejects {x : Vec α n} {F : Factorization α (p.split x).free.length}
    (h : p.Rejects s x F) (hx : r.workspace.iterate = x) (m : Nat) :
    ∃ q, r.advance p s (m + 1) = .running q ∧ q.workspace.iterate = x ∧ (∀ status,
      q.solution status = ⟨x, p.split x, ⟨_, F.inverse⟩, r.iterations + m + 1, status⟩) ∧
    q.trace.toList = r.trace.toList
      ++ (List.range' (r.iterations + 1) (m + 1)).map (p.exhaustedEvent x) := by
  induction m with
  | zero =>
    subst hx
    obtain ⟨q, hstep, hiterate, hsolution, htrace⟩ := step_of_rejects h
    refine ⟨q, advance_one.trans hstep, hiterate, hsolution, ?_⟩
    simp [htrace]
  | succ m ih =>
    obtain ⟨r', hr', hiterate', hsolution', htrace'⟩ := ih
    subst hiterate'
    obtain ⟨q, hstep, hiterate, hsolution, htrace⟩ := step_of_rejects h
    have hcount : r'.iterations = r.iterations + m + 1 :=
      congrArg Solution.iterations (hsolution' .maxIterations)
    refine ⟨q, advance_succ_running_iff.mpr ⟨r', hr', hstep⟩, hiterate, ?_, ?_⟩
    · intro status
      rw [hsolution, hcount, Nat.add_assoc r.iterations m 1]
    · have hrange : List.range' (r.iterations + 1) (m + 1 + 1)
          = List.range' (r.iterations + 1) (m + 1) ++ [r.iterations + m + 1 + 1] := by
        rw [List.range'_1_concat]
        congr 2
        omega
      rw [htrace, Array.toList_push, htrace', hcount, hrange, List.map_append, List.append_assoc]
      rfl

end Run

namespace Problem.Rejects

variable {p : Problem α n} {s : Settings α} {start x : Vec α n}
  {F : Factorization α (p.split x).free.length} {k : Nat} {r : Run α n}

/-- The iterate stays where it is. -/
theorem reaches (h : p.Rejects s x F) (hx : p.Reaches s start k x) {j : Nat} (hj : k ≤ j) :
    p.Reaches s start j x := by
  obtain ⟨r, hr, hiterate⟩ := hx
  rcases Nat.exists_eq_add_of_le hj with ⟨_ | m, rfl⟩
  · exact ⟨r, hr, hiterate⟩
  · obtain ⟨q, hq, hq', -, -⟩ := Run.advance_of_rejects h hiterate m
    refine ⟨q, ?_, hq'⟩
    rw [Run.advance_add, hr]
    exact hq

/-- The rest of the budget is used up, one iteration after the other reporting the same. -/
theorem exists_finish (h : p.Rejects s x F) (hk : k < s.maxIterations)
    (hr : (Run.start (Workspace.fresh n) p start).advance p s k = .running r)
    (hiterate : r.workspace.iterate = x) : ∃ q : Run α n,
      ((Workspace.fresh n).solve s p start).2 = q.finish .maxIterations ∧
      q.solution .maxIterations
        = ⟨x, p.split x, ⟨_, F.inverse⟩, s.maxIterations, .maxIterations⟩ ∧
      q.trace.toList = r.trace.toList
        ++ (List.range' (k + 1) (s.maxIterations - k)).map (p.exhaustedEvent x) := by
  have hcount : r.iterations = k := (Run.iterations_of_advance hr).trans (Nat.zero_add k)
  obtain ⟨m, hm⟩ : ∃ m, s.maxIterations = k + (m + 1) := Nat.exists_eq_add_of_lt hk
  have hremaining : s.maxIterations - k = m + 1 := by omega
  obtain ⟨q, hq, -, hsolution, htrace⟩ := Run.advance_of_rejects h hiterate m
  refine ⟨q, ?_, ?_, ?_⟩
  · rw [Workspace.report_of_budget (by omega), hm, Run.advance_add, hr]
    dsimp only
    rw [hq]
    rfl
  · rw [hsolution, hcount, hm, Nat.add_assoc]
  · rw [htrace, hcount, hremaining]

end Problem.Rejects

/-! ## The solve -/

/-- What becomes of a solve that has rejected all step lengths in the iteration at `x` after `k`
others, with the factorization `F`. -/
structure Solver.Freezes (solver : Solver α) (p : Problem α solver.dimension)
    (start x : Vec α solver.dimension) (F : Factorization α (p.split x).free.length) (k : Nat) :
    Prop where
  /-- It uses up its budget and returns what that iteration had. -/
  returns : solver.Returns p start
    ⟨x, p.split x, ⟨_, F.inverse⟩, solver.settings.maxIterations, .maxIterations⟩
  /-- The iterate stays where it is. -/
  stays {j : Nat} : k ≤ j → p.Reaches solver.settings start j x
  /-- No later iteration converges or accepts a step. -/
  idle {j : Nat} {y : Vec α solver.dimension} : k ≤ j → p.Reaches solver.settings start j y →
    p.Unconverged solver.settings y ∧ ∀ G, p.factorizeAt? solver.settings y = some G →
      (p.search solver.settings y G).acceptedLength = none
  /-- After the reports of the iterations before, each of the others reports the same. -/
  trace : ∃ r, (Run.start (Workspace.fresh _) p start).advance p solver.settings k = .running r ∧
    (solver.solve (.ofProblem p start)).2.trace.toList = r.trace.toList
      ++ (List.range' (k + 1) (solver.settings.maxIterations - k)).map (p.exhaustedEvent x)
      ++ [.result .maxIterations solver.settings.maxIterations (p.split x).free.length
        (p.split x).clamped.length]

/-- **A rejected line search freezes the run.** Nothing is asked of the arithmetic. -/
theorem Solver.freezes_of_rejects {solver : Solver α} {p : Problem α solver.dimension}
    {start x : Vec α solver.dimension} {F : Factorization α (p.split x).free.length} {k : Nat}
    (hk : k < solver.settings.maxIterations) (hx : p.Reaches solver.settings start k x)
    (h : p.Rejects solver.settings x F) : solver.Freezes p start x F k := by
  obtain ⟨r, hr, hiterate⟩ := hx
  obtain ⟨q, hreport, hsolution, htrace⟩ := h.exists_finish hk hr hiterate
  refine ⟨?_, h.reaches ⟨r, hr, hiterate⟩, ?_, r, hr, ?_⟩
  · rw [returns_iff, hreport]
    exact congrArg Except.ok hsolution
  · intro j y hj hy
    obtain rfl := Problem.reaches_unique hy (h.reaches ⟨r, hr, hiterate⟩ hj)
    refine ⟨h.unconverged, ?_⟩
    intro G hG
    cases hG.symm.trans h.factored
    exact h.rejected
  · have hpart : q.partition = p.split x := congrArg Solution.partition hsolution
    have htotal : q.iterations = solver.settings.maxIterations :=
      congrArg Solution.iterations hsolution
    rw [solve_answer, hreport]
    show (q.trace.push (.result .maxIterations q.iterations q.partition.free.length
      q.partition.clamped.length)).toList = _
    rw [Array.toList_push, htrace, hpart, htotal]

/-- A concave objective with its maximum in the middle of the box. -/
def Problem.concave : Problem Float 1 where
  hessian := #v[#v[-1.0]]
  linear := #v[0.0]
  lower := #v[-1.0]
  upper := #v[1.0]

/-- Seven iterations, and a regularization that makes the concave objective convex. -/
def Settings.regularized : Settings Float :=
  { Settings.standard with maxIterations := 7, regularization := 2.0 }

/-- The regularized Newton step leads to the maximum, and every step towards it is rejected. -/
theorem Problem.rejects_concave : ∃ F,
    concave.Rejects Settings.regularized (concave.project #v[0.5]) F := by
  have hgoes : concave.stopStatus? Settings.regularized (concave.project #v[0.5]) = none := by
    decide +kernel
  have hsearch : (concave.factorizeAt? Settings.regularized (concave.project #v[0.5])).any
      (fun F => !Scalar.lt (concave.directionAt _ F).maxAbs Settings.regularized.gradThreshold &&
        (concave.search Settings.regularized _ F).acceptedLength.isNone) := by
    decide +kernel
  obtain ⟨F, hF, hrejected⟩ := (Option.any_eq_true _ _).mp hsearch
  simp only [Bool.and_eq_true, Bool.not_eq_true', Option.isNone_iff_eq_none] at hrejected
  exact ⟨F, unconverged_of_large hgoes hF hrejected.1, hF, hrejected.2⟩

theorem Solver.freezes_concave : ∃ F,
    Problem.concave.Rejects Settings.regularized (Problem.concave.project #v[0.5]) F ∧
    Solver.Freezes ⟨1, Settings.regularized, .fresh 1 none⟩ Problem.concave #v[0.5]
      (Problem.concave.project #v[0.5]) F 0 := by
  obtain ⟨F, hF⟩ := Problem.rejects_concave
  have hbudget : 0 < Settings.regularized.maxIterations := by decide
  exact ⟨F, hF, @Solver.freezes_of_rejects Float _
    ⟨1, Settings.regularized, .fresh 1 none⟩ _ _ _ F 0 hbudget
    (Problem.reaches_zero.mpr rfl) hF⟩

end ProjectedNewton
