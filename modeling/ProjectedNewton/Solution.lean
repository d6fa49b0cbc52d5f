import ProjectedNewton.Problem

/-!
# Solutions and traces

What a run of the solver returns and what it reports. A run that was not stopped by an error always
has a solution; its status says why the run ended, and `Status.message` puts this into words. The
trace of a run is a sequence of events: one for every iteration that reached the line search, and
one for the result.
-/

namespace ProjectedNewton

/-- Why a run ended. -/
inductive Status where
  /-- The gradient is within the tolerance. -/
  | gradient
  /-- No coordinate is free. -/
  | clamped
  /-- The Newton step is within the tolerance. -/
  | step
  /-- The iterations are used up. -/
  | maxIterations
  deriving DecidableEq

namespace Status

/-- Every status, in the order in which they are listed to users. -/
def all : List Status := [gradient, clamped, step, maxIterations]

def name : Status → String
  | gradient => "gradient"
  | clamped => "clamped"
  | step => "step"
  | maxIterations => "max_iterations"

def message : Status → String
  | gradient => "Gradient norm smaller than tolerance"
  | clamped => "All dimensions are clamped"
  | step => "Newton step smaller than tolerance"
  | maxIterations => "Maximum main iterations exceeded"

/-- The status with the given name. -/
def ofName? (name : String) : Option Status := all.find? fun s => s.name == name

end Status

/-- The result of a run on a problem with `n` coordinates. -/
structure Solution (α : Type) (n : Nat) where
  x : Vec α n
  /-- The free and clamped coordinates that the last iteration worked with. -/
  partition : Partition n
  /-- The inverse of the regularized Hessian of the free coordinates from the last factorization,
  which may belong to an earlier partition than the one returned. -/
  inverse : Square α
  iterations : Nat
  status : Status

/-- A solution of a problem of any size. -/
structure SomeSolution (α : Type) where
  size : Nat
  solution : Solution α size

/-! ## Traces -/

/-- Something that a run reports. -/
inductive Event (α : Type) where
  /-- Iteration `iteration` accepted a step of length `length`: the objective after it, the largest
  entry of the gradient before it, the decrease of the objective, and the number of clamped
  coordinates. -/
  | stepTaken (iteration : Nat) (value gradientNorm reduction length : α) (clamped : Nat)
  /-- Iteration `iteration` accepted no step and the objective keeps its value. -/
  | searchExhausted (iteration : Nat) (value gradientNorm : α) (clamped : Nat)
  /-- The run ended with a solution. -/
  | result (status : Status) (iterations free clamped : Nat)

/-- The events of a run in the order in which they happened. -/
abbrev Trace (α : Type) := Array (Event α)

end ProjectedNewton
