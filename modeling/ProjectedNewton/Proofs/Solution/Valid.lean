import ProjectedNewton.Proofs.Problem.Box
import ProjectedNewton.Proofs.Scalar.Double
import ProjectedNewton.Proofs.Solver.Outcome

/-!
# Every returned solution is valid

Whatever the objective is, a solution that a solver returns is a point of the box, with every
coordinate listed once as free or clamped and every clamped coordinate on one of its bounds.

The point and the partition need not belong together: when the iterations are used up, the partition
is the one at the iterate before, and the last step has moved the point since. `Solution.Valid`
holds all the same, since no step takes a clamped coordinate off its bound.

* `Run.feasible_iterate`: the iterates of a run stay in the box.
* `Solver.valid_of_outcome` is the main result.
-/

namespace ProjectedNewton

open Scalar

variable {α : Type} [Scalar α] {n : Nat}

/-- What can be said of a returned solution without looking at the objective. -/
structure Solution.Valid (sol : Solution α n) (p : Problem α n) : Prop where
  feasible : p.Feasible sol.x
  isSplit : sol.partition.IsSplit
  onBound : ∀ i ∈ sol.partition.clamped, p.OnBound sol.x i

variable [LawfulScalar α] {p : Problem α n} {s : Settings α} {x start : Vec α n}
  {w : Workspace α n}

namespace Run

/-- Every iteration keeps the iterate in the box. -/
theorem feasible_step {r q : Run α n} (hp : p.HasBounds) (hr : p.Feasible r.workspace.iterate)
    (h : r.step p s = .running q) : p.Feasible q.workspace.iterate := by
  obtain ⟨F, -, hiterate, -⟩ := fields_of_running h
  rw [hiterate]
  exact LineSearch.feasible_landing (l := p.search s r.workspace.iterate F) hp hr

/-- **The iterates of a run stay in the box.** -/
theorem feasible_iterate (hp : p.HasBounds) (hstart : ∀ i, isNaN (start i) = false) {k : Nat}
    {q : Run α n} (h : (Run.start w p start).advance p s k = .running q) :
    p.Feasible q.workspace.iterate :=
  advance_invariant (fun r => p.Feasible r.workspace.iterate)
    (fun _ _ hr hstep => feasible_step hp hr hstep) (Problem.feasible_project hp hstart) h

end Run

omit [LawfulScalar α] in
/-- A point of the box with its own split makes a valid solution. -/
theorem Solution.valid_of_split {sol : Solution α n} (hx : p.Feasible sol.x)
    (hpart : sol.partition = p.split sol.x) : sol.Valid p where
  feasible := hx
  isSplit := by
    rw [hpart]
    exact p.isSplit_split sol.x
  onBound := by
    intro i hi
    rw [hpart] at hi
    exact Problem.onBound_of_clamped hi

/-- **A solution at the end of a run is valid.** -/
theorem Ending.valid {sol : Solution α n} (h : Ending w s p start sol) (hp : p.HasBounds)
    (hstart : ∀ i, isNaN (start i) = false) : sol.Valid p := by
  cases h with
  | idle budget =>
    exact Solution.valid_of_split (Problem.feasible_project hp hstart) rfl
  | @stopped k r q status budget reached stops =>
    obtain ⟨hiterate, hpart⟩ := Run.fields_of_stopped stops
    rw [← hiterate] at hpart
    have hq : p.Feasible q.workspace.iterate := by
      rw [hiterate]
      exact Run.feasible_iterate hp hstart reached
    exact Solution.valid_of_split hq hpart
  | @exhausted k r q budget reached goesOn =>
    -- The partition belongs to the iterate before the last step.
    have hr : p.Feasible r.workspace.iterate := Run.feasible_iterate hp hstart reached
    obtain ⟨F, -, hiterate, hpart⟩ := Run.fields_of_running goesOn
    refine ⟨Run.feasible_step hp hr goesOn, ?_, ?_⟩
    · show q.partition.IsSplit
      rw [hpart]
      exact p.isSplit_split _
    · intro i hi
      change i ∈ q.partition.clamped at hi
      show p.OnBound q.workspace.iterate i
      rw [hpart] at hi
      rw [hiterate]
      exact Problem.onBound_landing hp hr hi

/-- **Every returned solution is valid**, for any settings, any history of the solver and any
objective, NaN and infinities included. Only the bounds and the start have to be numbers. -/
theorem Solver.valid_of_outcome {solver : Solver α} {p : Problem α solver.dimension}
    {start : Vec α solver.dimension} {S : SomeSolution α}
    (h : (solver.solve (.ofProblem p start)).2.outcome = .ok S) (hp : p.HasBounds)
    (hstart : ∀ i, isNaN (start i) = false) :
    ∃ sol, S = ⟨solver.dimension, sol⟩ ∧ sol.Valid p := by
  obtain ⟨sol, hS, hsol⟩ := exists_returns h
  exact ⟨sol, hS, (ending_of_returns hsol).valid hp hstart⟩

/-- A problem whose objective is NaN away from zero in the second coordinate, and whose bounds are
infinite in the first coordinate and crossed in the second. -/
def Problem.undefinedObjective : Problem Float 2 where
  hessian := #v[#v[1.0, 0.0], #v[0.0, 0.0 / 0.0]]
  linear := #v[1.0 / 0.0, -3.0]
  lower := #v[-1.0 / 0.0, 2.0]
  upper := #v[1.0 / 0.0, 1.0]

/-- The solution that a solver returns on it after two iterations is valid. -/
theorem Solver.valid_of_undefinedObjective : ∃ sol,
    (Solver.solve ⟨2, { Settings.standard with maxIterations := 2 }, .fresh 2 none⟩
      (.ofProblem Problem.undefinedObjective #v[0.5, 0.0])).2.outcome = .ok ⟨2, sol⟩ ∧
      sol.Valid Problem.undefinedObjective := by
  have hvalid := @Solver.valid_of_outcome Float _ _
    ⟨2, { Settings.standard with maxIterations := 2 }, .fresh 2 none⟩
    Problem.undefinedObjective #v[0.5, 0.0]
  have hp : Problem.undefinedObjective.HasBounds := by decide +kernel
  have hstart : ∀ i, isNaN ((#v[0.5, 0.0] : Vec Float 2) i) = false := by decide +kernel
  have hreturns : (Solver.solve ⟨2, { Settings.standard with maxIterations := 2 }, .fresh 2 none⟩
      (.ofProblem Problem.undefinedObjective #v[0.5, 0.0])).2.outcome.toOption.isSome := by
    decide +kernel
  dsimp only at hvalid
  generalize (Solver.solve ⟨2, { Settings.standard with maxIterations := 2 }, .fresh 2 none⟩
      (.ofProblem Problem.undefinedObjective #v[0.5, 0.0])).2.outcome = outcome
    at hvalid hreturns ⊢
  cases outcome with
  | error e => cases hreturns
  | ok S =>
    obtain ⟨sol, rfl, hsol⟩ := hvalid rfl hp hstart
    exact ⟨sol, rfl, hsol⟩

end ProjectedNewton
