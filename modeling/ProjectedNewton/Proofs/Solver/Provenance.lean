import ProjectedNewton.Proofs.Run.Provenance
import ProjectedNewton.Proofs.Solver.Budget

/-!
# What a returned solution tells about its run

A solver returns a point, a partition and an inverse. Each of them belongs to an iterate of the call
that returns it, but not always to the same one. `Solution.Traced` says to which, and
`Solver.traced_of_returns` that this holds of every returned solution, whatever the solver was used
for before.

In two cases the inverse need not have the size of the returned partition, and in one case the
partition need not be that of the returned point. The first of these is a solution of
`Problem.corner`: the last iteration has freed a coordinate.
-/

namespace ProjectedNewton

variable {α : Type} [Scalar α] {n : Nat}

/-- How a solution goes back to the run from `start` that has ended with it. -/
structure Solution.Traced (sol : Solution α n) (p : Problem α n) (s : Settings α)
    (start : Vec α n) : Prop where
  /-- The iterates to which the point, the partition and the inverse belong. -/
  origin : p.Origin s start sol
  /-- The inverse has a row for every free coordinate, unless the run has stopped before the Newton
  step of a later iteration, or without any iteration. -/
  inverse : sol.inverse.size = sol.partition.free.length ∨
    2 ≤ sol.iterations ∧ (sol.status = .gradient ∨ sol.status = .clamped) ∨ s.maxIterations = 0
  /-- The partition is that of the returned point, unless the budget is used up and the last
  iteration has accepted a step, from a point `y` to which the partition belongs. -/
  partition : sol.partition = p.split sol.x ∨
    sol.status = .maxIterations ∧ ∃ (k : Nat) (y : Vec α n)
      (F : Factorization α (p.split y).free.length) (a : α), s.maxIterations = k + 1 ∧
      p.Reaches s start k y ∧ p.factorizeAt? s y = some F ∧
      (p.search s y F).acceptedLength = some a ∧ sol.x = (p.search s y F).candidate a ∧
      sol.partition = p.split y

namespace Problem.Origin

variable {p : Problem α n} {s : Settings α} {start : Vec α n} {sol : Solution α n}

theorem inverse (h : p.Origin s start sol) : sol.inverse.size = sol.partition.free.length ∨
    2 ≤ sol.iterations ∧ (sol.status = .gradient ∨ sol.status = .clamped) ∨
      s.maxIterations = 0 := by
  cases h with
  | idle budget => exact Or.inr (Or.inr budget)
  | own budget reached factored converged => exact Or.inl rfl
  | before budget reached previous factored converged =>
    exact Or.inr (Or.inl ⟨Nat.le_add_left 2 _, converged⟩)
  | exhausted budget reached previous factored => exact Or.inl rfl

theorem partition (h : p.Origin s start sol) : sol.partition = p.split sol.x ∨
    sol.status = .maxIterations ∧ ∃ (k : Nat) (y : Vec α n)
      (F : Factorization α (p.split y).free.length) (a : α), s.maxIterations = k + 1 ∧
      p.Reaches s start k y ∧ p.factorizeAt? s y = some F ∧
      (p.search s y F).acceptedLength = some a ∧ sol.x = (p.search s y F).candidate a ∧
      sol.partition = p.split y := by
  cases h with
  | idle budget => exact Or.inl rfl
  | own budget reached factored converged => exact Or.inl rfl
  | before budget reached previous factored converged => exact Or.inl rfl
  | @exhausted k x y F budget reached previous factored =>
    have hlanding : x = (p.search s y F).landing := landing_of_reaches previous factored reached
    unfold LineSearch.landing at hlanding
    cases haccepted : (p.search s y F).acceptedLength with
    | none =>
      -- Nothing was accepted, so the returned point is the one the partition belongs to.
      rw [haccepted] at hlanding
      exact Or.inl (congrArg p.split hlanding.symm)
    | some a =>
      rw [haccepted] at hlanding
      exact Or.inr ⟨rfl, k, y, F, a, budget, previous, factored, haccepted, hlanding, rfl⟩

end Problem.Origin

/-- **Every part of a returned solution belongs to an iterate of its run.** -/
theorem Solver.traced_of_returns {solver : Solver α} {p : Problem α solver.dimension}
    {start : Vec α solver.dimension} {sol : Solution α solver.dimension}
    (h : solver.Returns p start sol) : sol.Traced p solver.settings start := by
  have horigin : p.Origin solver.settings start sol := (ending_of_returns h).origin
  exact ⟨horigin, horigin.inverse, horigin.partition⟩

/-- With two iterations, the solution of the corner has two free coordinates, and the inverse was
made in the iteration before, when only one of them was free. -/
theorem Solver.traced_corner : ∃ sol,
    Solver.Returns ⟨2, Settings.quarter 2, .fresh 2 none⟩ Problem.corner (Vec.zero 2) sol ∧
    sol.Traced Problem.corner (Settings.quarter 2) (Vec.zero 2) ∧
    sol.partition.free = [0, 1] ∧ sol.inverse.size = 1 := by
  obtain ⟨sol, houtcome, hfree, hsize⟩ := Problem.outcome_corner_two
  have hreturns : Solver.Returns ⟨2, Settings.quarter 2, .fresh 2 none⟩ Problem.corner
      (Vec.zero 2) sol :=
    Problem.returns_withBudget (s := Settings.quarter 2).mpr houtcome
  exact ⟨sol, hreturns, Solver.traced_of_returns hreturns, hfree, hsize⟩

end ProjectedNewton
