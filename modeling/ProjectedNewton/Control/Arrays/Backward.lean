import ProjectedNewton.Control.Arrays
import ProjectedNewton.Control.Backward
import ProjectedNewton.Tensor.Product

/-!
# The backward pass over arrays

The backward pass for arrays that need not fit together. Every product and sum of a knot is that of
`Plant.expand` and `KnotModel.backup`, with arrays multiplied and broadcast as far as they can be.
The solver checks the shapes of what it is given. So only a model in which the controls have the
right number of components gets past it, and the corrections are vectors in any case.
-/

namespace ProjectedNewton

open Scalar

variable {α : Type}

/-- A quadratic model of the cost that follows a knot. -/
structure ValueArrays (α : Type) where
  gradient : Tensor α
  hessian : Tensor α

/-- A quadratic model of the cost from a knot on, and the limits of the correction there. -/
structure KnotArrays (α : Type) where
  stateGradient : Tensor α
  controlGradient : Tensor α
  stateHessian : Tensor α
  controlHessian : Tensor α
  mixed : Tensor α
  lower : Tensor α
  upper : Tensor α

/-- A backward pass in progress, for states of `n` and controls of `m` components and a horizon of
`T` knots. -/
structure ArrayPass (α : Type) (n m T : Nat) where
  value : ValueArrays α
  warmStart : Tensor α
  solver : Solver α
  policy : Policy α n m T
  trace : Array (PassEvent α)

variable [Scalar α] {n m T : Nat}

/-! ## One knot -/

namespace PlantArrays

variable (p : PlantArrays α)

/-- The model at a knot with state `x` and control `u`, from the model after it. -/
def expand (V : ValueArrays α) (x u : Except ShapeError (Tensor α)) :
    Except ShapeError (KnotArrays α) := do
  let A := p.stateMap
  let B := p.controlMap
  let u ← u
  let controlGradient ← (← p.controlCost.dot u).add (← B.transpose.dot V.gradient)
  let stateGradient ← (← p.stateCost.dot (← x)).add (← A.transpose.dot V.gradient)
  let controlHessian ← p.controlCost.add (← (← B.transpose.dot V.hessian).dot B)
  let mixed ← (← B.transpose.dot V.hessian).dot A
  let stateHessian ← p.stateCost.add (← (← A.transpose.dot V.hessian).dot A)
  let lower ← (← p.limits.column 0).sub u
  let upper ← (← p.limits.column 1).sub u
  return { stateGradient, controlGradient, stateHessian, controlHessian, mixed, lower, upper }

end PlantArrays

/-- The gain of a solution: minus the inverse times the mixed part in the free controls, stored in
their rows. -/
def SomeSolution.gain (s : SomeSolution α) (mixed : Tensor α) : Except ShapeError (Mat α m n) := do
  let free := s.solution.partition.free.map Fin.val
  if free.isEmpty then return Mat.zero m n
  let inverse := s.solution.inverse
  let product ← (Tensor.ofMatrix inverse.entries).dot (← mixed.pickRows free)
  let rows : Mat α free.length n ← product.neg.fit [free.length, n]
  let stored := free.zip rows.toList
  return Vector.ofFn fun i => (stored.lookup i.val).getD (Vec.zero n)

/-- The model in front of a knot whose control follows the correction `k` and the gain `K`. -/
def KnotArrays.backup (model : KnotArrays α) (k K : Tensor α) :
    Except ShapeError (ValueArrays α) := do
  let weighted ← K.transpose.dot model.controlHessian
  let mixed := model.mixed
  let gradient ← model.stateGradient.add (← weighted.dot k)
  let gradient ← gradient.add (← K.transpose.dot model.controlGradient)
  let gradient ← gradient.add (← mixed.transpose.dot k)
  let hessian ← model.stateHessian.add (← weighted.dot K)
  let hessian ← hessian.add (← K.transpose.dot mixed)
  let hessian ← hessian.add (← mixed.transpose.dot K)
  return ⟨gradient, (← hessian.add hessian.transpose).scale half⟩

/-! ## The whole pass -/

namespace ArrayPass

variable (p : PlantArrays α) (states controls : Tensor α)

/-- The pass in front of knot `i`, after the solver has found a solution there. -/
def advance (pass : ArrayPass α n m T) (i : Fin T) (model : KnotArrays α) (s : SomeSolution α) :
    Except ShapeError (ArrayPass α n m T) := do
  let k := Tensor.ofVector s.solution.x
  let K : Mat α m n ← s.gain model.mixed
  let value ← model.backup k (.ofMatrix K)
  let objective ← model.controlHessian.quadraticValue model.controlGradient k
  let event := PassEvent.knot i (← objective.stretch []) (s.solution.partition.clamped.map Fin.val)
    s.solution.iterations
  return { pass with
    value := value
    warmStart := k
    policy := pass.policy.set i (← k.fit [m]) K
    trace := pass.trace.push event }

/-- Moves the pass over knot `i`, with the error if that fails. -/
def knot (i : Fin T) (pass : ArrayPass α n m T) : ArrayPass α n m T × Option (StepError α) :=
  match p.expand pass.value (states.column i) (controls.column i) with
  | .error e => (pass, some (.shape e))
  | .ok model =>
    let (solver, answer) := pass.solver.solve
      { hessian := .ok model.controlHessian
        linear := .ok model.controlGradient
        lower := .ok model.lower
        upper := .ok model.upper
        start := .ok pass.warmStart }
    let pass := { pass with solver, trace := pass.trace ++ answer.trace.map PassEvent.solver }
    match answer.outcome with
    | .error e => (pass, some (.solver e))
    | .ok s => match pass.advance i model s with
      | .error e => (pass, some (.shape e))
      | .ok pass => (pass, none)

/-- Moves the pass over the knots in front of knot `i`, up to the first failure. -/
def sweep : (i : Nat) → i ≤ T → ArrayPass α n m T → ArrayPass α n m T × Option (StepError α)
  | 0, _, pass => (pass, none)
  | i + 1, h, pass => match pass.knot p states controls ⟨i, h⟩ with
    | (pass, none) => sweep i (Nat.le_of_succ_le h) pass
    | failed => failed

end ArrayPass

/-- Why a step fails in which a backward pass failed. -/
def PassError.stepError : PassError α → StepError α
  | solve error => .solver error.failure
  | inverseSize => .shape .mismatch

/-- A finished or failed backward pass over arrays, with its error, for states of `n` and controls
of `m` components and a horizon of `T` knots. There is no pass if the model behind the last knot
cannot be formed. -/
def PlantArrays.backward (p : PlantArrays α) (n m T : Int) (solver : Solver α)
    (states : Option (Tensor α)) (controls : Tensor α) :
    Except (StepError α) (ArrayPass α n.toNat m.toNat T.toNat × Option (StepError α)) := do
  unless allocatable [m, T] && allocatable [T, m, n] do throw (.shape .mismatch)
  let states ← present states
  let last ← states.column T.toNat
  let start : ArrayPass α n.toNat m.toNat T.toNat := {
    value := ⟨← p.stateCost.dot last, p.stateCost⟩
    warmStart := .ofVector (Vec.zero m.toNat)
    solver := solver
    policy := Policy.zero n.toNat m.toNat T.toNat
    trace := #[] }
  return start.sweep p states controls T.toNat (Nat.le_refl _)

end ProjectedNewton
