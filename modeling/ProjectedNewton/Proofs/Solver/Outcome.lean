import ProjectedNewton.Proofs.Run.Reuse
import ProjectedNewton.Solver

/-!
# What a solver answers

A solver that is given arrays of the right shapes runs on the problem that they describe, and its
answer is the report of that run. In between come the reading of the arguments and the memory of the
solver, and neither leaves a trace in the answer.

* `Arguments.check_eq_ok_iff`: the arguments that are not refused are those of a problem.
* `Solver.solve_answer`: on these the answer is the report of a run in fresh memory.
* `Solver.Returns` says that a solver returns a solution, and `Solver.exists_returns` that it
  returns nothing else; `Solver.ending_of_returns` leads back to how the run ended.
* `Solver.Breaks` says that a solver fails in a factorization, which is the only other outcome
  (`Solver.returns_or_breaks`).
-/

namespace ProjectedNewton

variable {α : Type} {n : Nat}

/-- A computation returns a value when both of its parts do. -/
theorem bind_eq_ok_iff {ε β γ : Type} {x : Except ε β} {f : β → Except ε γ} {c : γ} :
    (x >>= f) = .ok c ↔ ∃ b, x = .ok b ∧ f b = .ok c := by
  cases x with
  | error e => simp [bind, Except.bind]
  | ok b => simp [bind, Except.bind]

/-- The error of a computation that fails. -/
def errorOf {ε β : Type} : Except ε β → Option ε
  | .error e => some e
  | .ok _ => none

theorem errorOf_eq_some_iff {ε β : Type} {x : Except ε β} {e : ε} :
    errorOf x = some e ↔ x = .error e := by
  cases x <;> simp [errorOf]

/-- Errors of different kinds are different failures. -/
theorem FactorizationError.failure_inj {e e' : FactorizationError α} :
    e.failure = e'.failure ↔ e = e' := by
  cases e <;> cases e' <;> simp [failure]

/-! ## Arguments of the right shapes -/

theorem Tensor.inShape?_eq_some_iff {t : Tensor α} {shape : List Nat} {g : Grid α shape} :
    t.inShape? shape = some g ↔ t = ⟨shape, g⟩ := by
  obtain ⟨shape', entries⟩ := t
  unfold inShape?
  constructor
  · intro h
    split at h
    · next hshape =>
      cases hshape
      cases h
      rfl
    · cases h
  · intro h
    cases h
    exact dif_pos rfl

theorem Argument.inShape_eq_ok_iff {argument : Argument α} {input : Input} {shape : List Nat}
    {g : Grid α shape} : argument.inShape input shape = .ok g ↔ argument = .ok ⟨shape, g⟩ := by
  unfold inShape
  cases argument with
  | error e => simp
  | ok t =>
    rw [Except.ok.injEq, ← Tensor.inShape?_eq_some_iff]
    dsimp only
    cases t.inShape? shape with
    | none => simp
    | some entries => simp

namespace Arguments

/-- The arrays of a problem and of a start. -/
def ofProblem (p : Problem α n) (start : Vec α n) : Arguments α where
  hessian := .ok (.ofMatrix p.hessian)
  linear := .ok (.ofVector p.linear)
  lower := .ok (.ofVector p.lower)
  upper := .ok (.ofVector p.upper)
  start := .ok (.ofVector start)

/-- **The arguments of the right shapes are those of a problem and a start.** -/
theorem check_eq_ok_iff {arguments : Arguments α} {p : Problem α n} {start : Vec α n} :
    arguments.check n = .ok (p, start) ↔ arguments = .ofProblem p start := by
  obtain ⟨⟨hessian, linear, lower, upper⟩, start'⟩ := arguments
  unfold check
  simp only [bind_eq_ok_iff]
  constructor
  · intro h
    obtain ⟨H, hH, q, hq, l, hl, u, hu, x, hx, h⟩ := h
    cases h
    rw [Argument.inShape_eq_ok_iff.mp hH, Argument.inShape_eq_ok_iff.mp hq,
      Argument.inShape_eq_ok_iff.mp hl, Argument.inShape_eq_ok_iff.mp hu,
      Argument.inShape_eq_ok_iff.mp hx]
    rfl
  · intro h
    cases h
    exact ⟨_, Argument.inShape_eq_ok_iff.mpr rfl, _, Argument.inShape_eq_ok_iff.mpr rfl,
      _, Argument.inShape_eq_ok_iff.mpr rfl, _, Argument.inShape_eq_ok_iff.mpr rfl,
      _, Argument.inShape_eq_ok_iff.mpr rfl, rfl⟩

@[simp] theorem check_ofProblem (p : Problem α n) (start : Vec α n) :
    (ofProblem p start).check n = .ok (p, start) :=
  check_eq_ok_iff.mpr rfl

end Arguments

namespace Solver

variable [Scalar α]

/-! ## The answer is the report of a run -/

theorem memory_solve_report (memory : Memory α n) (s : Settings α) (p : Problem α n)
    (start : Vec α n) :
    (memory.solve s p start).2 = ((Workspace.fresh n).solve s p start).2 := by
  have hreport : (memory.solve s p start).2
      = ((memory.workspace.getD (Workspace.fresh n)).solve s p start).2 := by
    unfold Memory.solve
    dsimp only
    split <;> rfl
  rw [hreport]
  exact Workspace.solve_report _ _ s p start

/-- **A solver answers with the report of a run in fresh memory.** -/
theorem solve_answer (solver : Solver α) (p : Problem α solver.dimension)
    (start : Vec α solver.dimension) : (solver.solve (.ofProblem p start)).2
      = ((Workspace.fresh solver.dimension).solve solver.settings p start).2.answer := by
  rw [← memory_solve_report solver.memory]
  unfold solve
  rw [Arguments.check_ofProblem]

/-- **A used solver answers as a fresh one.** -/
theorem solve_eq_fresh (solver : Solver α) (arguments : Arguments α) : (solver.solve arguments).2
      = ((fresh solver.dimension solver.settings).solve arguments).2 := by
  unfold solve
  dsimp only [fresh]
  cases arguments.check solver.dimension with
  | error e => rfl
  | ok checked =>
    obtain ⟨p, start⟩ := checked
    dsimp only
    rw [memory_solve_report, memory_solve_report]

/-! ## What a solve leaves behind -/

theorem solve_configuration (solver : Solver α) (arguments : Arguments α) :
    (solver.solve arguments).1.dimension = solver.dimension ∧
      (solver.solve arguments).1.settings = solver.settings := by
  unfold solve
  cases arguments.check solver.dimension with
  | error e => exact ⟨rfl, rfl⟩
  | ok checked => exact ⟨rfl, rfl⟩

theorem memory_solve_solution (memory : Memory α n) (s : Settings α) (p : Problem α n)
    (start : Vec α n) : (memory.solve s p start).1.solution
      = (memory.solve s p start).2.answer.outcome.toOption.or memory.solution := by
  unfold Memory.solve
  dsimp only
  cases h : ((memory.workspace.getD (Workspace.fresh n)).solve s p start).2.outcome with
  | error e => simp [Report.answer, h, Except.toOption]
  | ok sol => simp [Report.answer, h, Except.toOption]

/-- A solver keeps the solution that it returns, or the one before. -/
theorem solve_solution (solver : Solver α) (arguments : Arguments α) :
    (solver.solve arguments).1.solution
      = (solver.solve arguments).2.outcome.toOption.or solver.solution := by
  unfold solve
  cases arguments.check solver.dimension with
  | error e => rfl
  | ok checked => exact memory_solve_solution solver.memory solver.settings checked.1 checked.2

/-! ## Returned solutions -/

/-- The solver returns the solution `sol` on the problem `p` from `start`. -/
def Returns (solver : Solver α) (p : Problem α solver.dimension)
    (start : Vec α solver.dimension) (sol : Solution α solver.dimension) : Prop :=
  (solver.solve (.ofProblem p start)).2.outcome = .ok ⟨solver.dimension, sol⟩

variable {solver : Solver α} {p : Problem α solver.dimension} {start : Vec α solver.dimension}

/-- A solver returns what a run in fresh memory returns. -/
theorem returns_iff {sol : Solution α solver.dimension} : solver.Returns p start sol ↔
    ((Workspace.fresh solver.dimension).solve solver.settings p start).2.outcome = .ok sol := by
  unfold Returns
  rw [solve_answer]
  unfold Report.answer
  dsimp only
  cases ((Workspace.fresh solver.dimension).solve solver.settings p start).2.outcome with
  | error e => simp
  | ok sol' => simp

/-- The solver fails on the problem `p` from `start` with the error `e`. -/
def Breaks (solver : Solver α) (p : Problem α solver.dimension)
    (start : Vec α solver.dimension) (e : FactorizationError α) : Prop :=
  (solver.solve (.ofProblem p start)).2.outcome = .error e.failure

/-- A solver fails as a run in fresh memory fails. -/
theorem breaks_iff {e : FactorizationError α} : solver.Breaks p start e ↔
    ((Workspace.fresh solver.dimension).solve solver.settings p start).2.outcome = .error e := by
  unfold Breaks
  rw [solve_answer]
  unfold Report.answer
  dsimp only
  cases ((Workspace.fresh solver.dimension).solve solver.settings p start).2.outcome with
  | error e' => simp [FactorizationError.failure_inj]
  | ok sol => simp

/-- On arguments of the right shapes, a solver returns a solution or fails in a factorization. -/
theorem returns_or_breaks (solver : Solver α) (p : Problem α solver.dimension)
    (start : Vec α solver.dimension) :
    (∃ sol, solver.Returns p start sol) ∨ ∃ e, solver.Breaks p start e := by
  cases h : ((Workspace.fresh solver.dimension).solve solver.settings p start).2.outcome with
  | ok sol => exact Or.inl ⟨sol, returns_iff.mpr h⟩
  | error e => exact Or.inr ⟨e, breaks_iff.mpr h⟩

/-- The solution that a solver returns is one of its dimension. -/
theorem exists_returns {S : SomeSolution α}
    (h : (solver.solve (.ofProblem p start)).2.outcome = .ok S) :
    ∃ sol, S = ⟨solver.dimension, sol⟩ ∧ solver.Returns p start sol := by
  have h' := h
  rw [solve_answer] at h'
  unfold Report.answer at h'
  dsimp only at h'
  split at h'
  · next sol hsol =>
    cases h'
    exact ⟨sol, rfl, h⟩
  · cases h'

/-- **A solution is returned at the end of a run, in one of three ways.** -/
theorem ending_of_returns {sol : Solution α solver.dimension} (h : solver.Returns p start sol) :
    Ending (Workspace.fresh solver.dimension) solver.settings p start sol :=
  ending_of_outcome (returns_iff.mp h)

/-- Without any iteration, the projected start is returned. -/
theorem returns_of_idle (hm : solver.settings.maxIterations = 0) : solver.Returns p start
    ⟨p.project start, p.split (p.project start), .empty, 0, .maxIterations⟩ := by
  rw [returns_iff]
  exact Workspace.outcome_of_idle hm

/-- A solver that cannot make the factorization at the projected start fails. -/
theorem breaks_of_singular {e : FactorizationError α} (hm : solver.settings.maxIterations ≠ 0)
    (hF : p.factorizeAt solver.settings (p.project start) = .error e) :
    solver.Breaks p start e := by
  obtain ⟨k, hk⟩ := Nat.exists_eq_succ_of_ne_zero hm
  have hstep := Run.step_of_singular (r := Run.start (Workspace.fresh _) p start) hF (Or.inl rfl)
  rw [breaks_iff, Workspace.report_of_budget hm, hk, Run.advance_of_ended (by simp [hstep]), hstep]
  rfl

end Solver

end ProjectedNewton
