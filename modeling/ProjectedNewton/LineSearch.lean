import ProjectedNewton.Problem

/-!
# Projected backtracking line search

From a point `x` of the box the search tries the step lengths `1, 1/2, …, 1/512` along a direction
and moves each candidate back into the box. The first candidate whose decrease of the objective
exceeds the given share of the linear prediction `g · (x - candidate)` is accepted. A comparison
with NaN is false, so such a candidate is never accepted.
-/

namespace ProjectedNewton

open Scalar

variable {α : Type} [Scalar α] {n : Nat}

/-- How many step lengths are tried. -/
def stepCount : Nat := 10

/-- The step lengths in the order in which they are tried, each one half of the one before. -/
def stepLengths : List α := (List.range stepCount).map halving

/-- The state of a search: where it starts, the gradient there, its direction and the share of the
predicted decrease that it asks for. -/
structure LineSearch (α : Type) (n : Nat) where
  problem : Problem α n
  start : Vec α n
  gradient : Vec α n
  direction : Vec α n
  threshold : α

namespace LineSearch

variable (s : LineSearch α n)

/-- The point reached by a step of length `a`, moved back into the box. -/
def candidate (a : α) : Vec α n := s.problem.project ((s.direction.scale a).add s.start)

/-- The decrease of the objective by a step of length `a`. -/
def reduction (a : α) : α := s.problem.value s.start - s.problem.value (s.candidate a)

/-- The step of length `a` decreases the objective by more than the share asked for. -/
def accepts (a : α) : Bool :=
  lt (s.threshold * s.gradient.dot (s.start.sub (s.candidate a))) (s.reduction a)

/-- The first step length that is accepted. -/
def acceptedLength : Option α := stepLengths.find? s.accepts

/-- The step length that was tried last: the accepted one, or the shortest. -/
def lastLength : α := s.acceptedLength.getD (halving (stepCount - 1))

end LineSearch

end ProjectedNewton
