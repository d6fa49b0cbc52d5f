import ProjectedNewton.Failure
import ProjectedNewton.Tensor

/-!
# Solvers

A solver has a dimension and settings, and keeps two things from one call to the next: the working
memory that it lends to its runs, and the last solution that it returned.

`Solver.solve` reads and checks its arguments one after the other. If one is refused, nothing has
been touched yet. If the run breaks down, the working memory stays as the run left it; the settings
and the last solution are as before.
-/

namespace ProjectedNewton

/-- What a solver of `n` coordinates keeps between calls. -/
structure Memory (α : Type) (n : Nat) where
  /-- The working memory of the last run. Before the first run there is none. -/
  workspace : Option (Workspace α n)
  /-- The solution returned last, which may be of another dimension. -/
  solution : Option (SomeSolution α)

structure Solver (α : Type) where
  dimension : Nat
  settings : Settings α
  memory : Memory α dimension

/-- An array argument as it was read. -/
abbrev Argument (α : Type) := Except ReadError (Tensor α)

/-- The arguments that describe a problem. -/
structure ProblemArguments (α : Type) where
  hessian : Argument α
  linear : Argument α
  lower : Argument α
  upper : Argument α

/-- The arguments of a solve: a problem and the point to start from. -/
structure Arguments (α : Type) extends ProblemArguments α where
  start : Argument α

/-- What a solve answers: a solution or a failure, and what was reported on the way. -/
structure Answer (α : Type) where
  outcome : Except (Failure α) (SomeSolution α)
  trace : Trace α

variable {α : Type}

/-! ## Checking the arguments -/

/-- The entries of an argument, if it was read and has the given shape. -/
def Argument.inShape (argument : Argument α) (input : Input) (shape : List Nat) :
    Except (Failure α) (Grid α shape) :=
  match argument with
  | .error e => .error (.unreadable e)
  | .ok t => match t.inShape? shape with
    | some entries => .ok entries
    | none => .error (.rejected (.wrongShape input shape))

/-- The problem and the start that the arguments describe. The first bad one decides the error. -/
def Arguments.check (arguments : Arguments α) (n : Nat) :
    Except (Failure α) (Problem α n × Vec α n) := do
  let hessian ← arguments.hessian.inShape .hessian [n, n]
  let linear ← arguments.linear.inShape .linear [n]
  let lower ← arguments.lower.inShape .lower [n]
  let upper ← arguments.upper.inShape .upper [n]
  let start ← arguments.start.inShape .start [n]
  return ({ hessian, linear, lower, upper }, start)

/-! ## Answers -/

/-- What a run answers to the caller of its solver. -/
def Report.answer {n : Nat} (report : Report α n) : Answer α where
  outcome := match report.outcome with
    | .ok solution => .ok ⟨n, solution⟩
    | .error e => .error e.failure
  trace := report.trace

/-- The solution returned last. -/
def Solver.solution (solver : Solver α) : Option (SomeSolution α) := solver.memory.solution

/-! ## Fresh solvers -/

/-- Memory that has not been used, with a given last solution. -/
def Memory.fresh (n : Nat) (solution : Option (SomeSolution α)) : Memory α n := ⟨none, solution⟩

/-- A solver that has not been used. -/
def Solver.fresh (dimension : Nat) (settings : Settings α) : Solver α :=
  ⟨dimension, settings, Memory.fresh dimension none⟩

/-! ## Solving -/

variable [Scalar α]

/-- A run on a checked problem. A solution is kept as the last one. -/
def Memory.solve {n : Nat} (memory : Memory α n) (s : Settings α) (p : Problem α n)
    (start : Vec α n) : Memory α n × Report α n :=
  let (workspace, report) := (memory.workspace.getD (Workspace.fresh n)).solve s p start
  match report.outcome with
  | .ok solution => (⟨some workspace, some ⟨n, solution⟩⟩, report)
  | .error _ => (⟨some workspace, memory.solution⟩, report)

/-- Checks the arguments and runs. -/
def Solver.solve (solver : Solver α) (arguments : Arguments α) : Solver α × Answer α :=
  match arguments.check solver.dimension with
  | .error e => (solver, ⟨.error e, #[]⟩)
  | .ok (p, start) =>
    let (memory, report) := solver.memory.solve solver.settings p start
    ({ solver with memory := memory }, report.answer)

end ProjectedNewton
