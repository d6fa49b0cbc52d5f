import ProjectedNewton.Control.Plant
import ProjectedNewton.Solver

/-!
# The backward pass

A backward pass looks for a policy that corrects the controls of a trajectory. It walks from the
last knot to the first with a quadratic model of the cost of what follows. At each knot it expands
the cost in state and control, lets the solver find the best correction of the control within the
limits, and takes as gain of the free controls the solver's inverse times the mixed part of the
expansion; clamped controls have no gain. Then it moves the model one knot to the front, assuming
that policy.

The solver is used knot after knot, each solve starting from the correction found before. A pass
fails when a solve does, and when the inverse has not the size of the free controls, which happens
when the last iteration of a solve changed them.
-/

namespace ProjectedNewton

open Scalar

/-- Something that a backward pass reports. -/
inductive PassEvent (α : Type) where
  | solver (event : Event α)
  /-- A knot is done: the objective of its correction, the clamped controls and the number of
  iterations. -/
  | knot (index : Nat) (value : α) (clamped : List Nat) (iterations : Nat)

/-- Why a backward pass fails. -/
inductive PassError (α : Type) where
  /-- A solve fails. -/
  | solve (error : FactorizationError α)
  /-- The inverse has another size than the free controls. -/
  | inverseSize

/-- A quadratic model of the cost that follows a knot, by the deviation of its state. -/
structure ValueModel (α : Type) (n : Nat) where
  gradient : Vec α n
  hessian : Mat α n n

/-- A quadratic model of the cost from a knot on, by the deviations of its state and control. -/
structure KnotModel (α : Type) (n m : Nat) where
  stateGradient : Vec α n
  controlGradient : Vec α m
  stateHessian : Mat α n n
  controlHessian : Mat α m m
  /-- The mixed second derivative, with one row for every control. -/
  mixed : Mat α m n

variable {α : Type} {n m T : Nat}

/-- The policy with another correction and gain at one knot. -/
def Policy.set (policy : Policy α n m T) (i : Fin T) (k : Vec α m) (K : Mat α m n) :
    Policy α n m T :=
  ⟨policy.feedforward.set i k i.isLt, policy.feedback.set i K i.isLt⟩

variable [Scalar α]

/-! ## One knot -/

namespace Plant

variable (plant : Plant α n m)

/-- The model after the last knot: the cost of the last state. -/
def terminal (x : Vec α n) : ValueModel α n := ⟨plant.stateCost.mulVec x, plant.stateCost⟩

/-- The model at a knot with state `x` and control `u`, from the model after it. -/
def expand (V : ValueModel α n) (x : Vec α n) (u : Vec α m) : KnotModel α n m :=
  let A := plant.stateMap
  let B := plant.controlMap
  { stateGradient := (plant.stateCost.mulVec x).add (A.transpose.mulVec V.gradient)
    controlGradient := (plant.controlCost.mulVec u).add (B.transpose.mulVec V.gradient)
    stateHessian := plant.stateCost.add ((A.transpose.mul V.hessian).mul A)
    controlHessian := plant.controlCost.add ((B.transpose.mul V.hessian).mul B)
    mixed := (B.transpose.mul V.hessian).mul A }

/-- The problem of the best correction of the control `u` within its limits. -/
def correction (model : KnotModel α n m) (u : Vec α m) : Problem α m where
  hessian := model.controlHessian
  linear := model.controlGradient
  lower := plant.lower.sub u
  upper := plant.upper.sub u

end Plant

/-- The gain that belongs to a correction: minus the inverse times the mixed part in the free
controls, and zero in the clamped ones. There is none if the inverse does not fit the free controls.
-/
def Solution.gain? (s : Solution α m) (mixed : Mat α m n) : Option (Mat α m n) :=
  let free := s.partition.free
  if free.isEmpty then some (Mat.zero m n)
  else if h : s.inverse.size = free.length then
    let inverse : Mat α free.length free.length := h ▸ s.inverse.entries
    some (Mat.spreadRows free (inverse.mul (mixed.pickRows free)).neg)
  else none

/-- The model in front of a knot whose control follows the correction `k` and the gain `K`. -/
def KnotModel.backup (model : KnotModel α n m) (k : Vec α m) (K : Mat α m n) : ValueModel α n :=
  let weighted := K.transpose.mul model.controlHessian
  let gradient := ((model.stateGradient.add (weighted.mulVec k)).add
    (K.transpose.mulVec model.controlGradient)).add (model.mixed.transpose.mulVec k)
  let hessian := ((model.stateHessian.add (weighted.mul K)).add
    (K.transpose.mul model.mixed)).add (model.mixed.transpose.mul K)
  ⟨gradient, (hessian.add hessian.transpose).scale half⟩

/-! ## The whole pass -/

/-- A backward pass in progress. -/
structure Pass (α : Type) (n m T : Nat) where
  value : ValueModel α n
  /-- The correction of the knot behind, from which the next solve starts. -/
  warmStart : Vec α m
  memory : Memory α m
  policy : Policy α n m T
  trace : Array (PassEvent α)

/-- What a backward pass answers. -/
structure PassAnswer (α : Type) (n m T : Nat) where
  outcome : Except (PassError α) (Policy α n m T)
  trace : Array (PassEvent α)

/-- The policy that corrects nothing. -/
def Policy.zero (n m T : Nat) : Policy α n m T :=
  ⟨Vector.replicate T (Vec.zero m), Vector.replicate T (Mat.zero m n)⟩

namespace Pass

variable (plant : Plant α n m) (s : Settings α) (reference : Trajectory α n m T)

/-- The pass behind the last knot. -/
def start (memory : Memory α m) : Pass α n m T where
  value := plant.terminal (reference.state (Fin.last T))
  warmStart := Vec.zero m
  memory := memory
  policy := Policy.zero n m T
  trace := #[]

/-- The model at knot `i`. -/
def model (pass : Pass α n m T) (i : Fin T) : KnotModel α n m :=
  plant.expand pass.value (reference.state i.castSucc) (reference.control i)

/-- Moves the pass over knot `i`, with the error if that fails. -/
def knot (i : Fin T) (pass : Pass α n m T) : Pass α n m T × Option (PassError α) :=
  let model := pass.model plant reference i
  let (memory, report) :=
    pass.memory.solve s (plant.correction model (reference.control i)) pass.warmStart
  let pass := { pass with memory, trace := pass.trace ++ report.trace.map PassEvent.solver }
  match report.outcome with
  | .error e => (pass, some (.solve e))
  | .ok solution => match solution.gain? model.mixed with
    | none => (pass, some .inverseSize)
    | some K =>
      let k := solution.x
      let value := quadraticValue model.controlHessian model.controlGradient k
      let clamped := solution.partition.clamped.map Fin.val
      ({ pass with
          value := model.backup k K
          warmStart := k
          policy := pass.policy.set i k K
          trace := pass.trace.push (.knot i value clamped solution.iterations) }, none)

/-- Moves the pass over the knots in front of knot `i`, up to the first failure. -/
def sweep : (i : Nat) → i ≤ T → Pass α n m T → Pass α n m T × Option (PassError α)
  | 0, _, pass => (pass, none)
  | i + 1, h, pass => match pass.knot plant s reference ⟨i, h⟩ with
    | (pass, none) => sweep i (Nat.le_of_succ_le h) pass
    | failed => failed

end Pass

/-- A backward pass of a plant along a trajectory, with the memory of a solver of its controls. -/
def Memory.backward (memory : Memory α m) (s : Settings α) (plant : Plant α n m)
    (reference : Trajectory α n m T) : Memory α m × PassAnswer α n m T :=
  let start := Pass.start plant reference memory
  let (pass, error?) := start.sweep plant s reference T (Nat.le_refl T)
  let outcome := match error? with
    | some e => .error e
    | none => .ok pass.policy
  (pass.memory, ⟨outcome, pass.trace⟩)

/-- A backward pass that uses a solver, if its dimension is the number of controls. -/
def Solver.backward? (solver : Solver α) (plant : Plant α n m) (reference : Trajectory α n m T) :
    Option (Solver α × PassAnswer α n m T) :=
  if h : solver.dimension = m then
    let (memory, answer) :=
      Memory.backward (h ▸ solver.memory) solver.settings plant reference
    some ({ solver with memory := h ▸ memory }, answer)
  else none

end ProjectedNewton
