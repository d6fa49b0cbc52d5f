import ProjectedNewton.Control.Arrays.Backward
import ProjectedNewton.Solver.Assignment

/-!
# Experiments

An experiment improves the controls of a plant by backward and forward passes. Its parameters are
sizes and arrays that may be replaced one by one. When a step is taken and everything it needs fits
together, the step is that of the plant and the trajectory which the arrays describe. Otherwise it
is the step over arrays, which goes as far as the arrays can be combined.

`Parameters.standard` is a point that moves in a plane under limited forces: two positions, two
velocities, and one force for each velocity.
-/

namespace ProjectedNewton

/-- The parameters of an experiment. -/
structure Parameters where
  /-- The time between two knots. -/
  timeStep : Float
  /-- The number of knots. -/
  horizon : Int
  stateSize : Int
  controlSize : Int
  arrays : PlantArrays Float
  solver : Solver Float

/-- A plant with its sizes, and the number of knots. -/
structure SizedPlant where
  stateSize : Nat
  controlSize : Nat
  horizon : Nat
  plant : Plant Float stateSize controlSize

namespace Parameters

/-! ## The standard experiment -/

/-- The time between two knots of the standard experiment. -/
def standardTimeStep : Float := 0.05

/-- The number of knots of the standard experiment. -/
def standardHorizon : Nat := 40

/-- A point in the plane under limited forces. Each velocity moves its position, and each force its
velocity. -/
def standardPlant : Plant Float 4 2 where
  stateMap := #v[#v[1, 0, standardTimeStep, 0], #v[0, 1, 0, standardTimeStep], #v[0, 0, 1, 0],
    #v[0, 0, 0, 1]]
  controlMap := #v[#v[0, 0], #v[0, 0], #v[standardTimeStep, 0], #v[0, standardTimeStep]]
  stateCost := Mat.diagonal #v[10, 10, 1, 1]
  controlCost := (Mat.identity 2).scale 0.05
  lower := #v[-1, -0.5]
  upper := #v[1, 0.5]

/-- The settings of the solver of the standard experiment. -/
def standardSettings : Settings Float :=
  { Settings.standard with maxIterations := 50, regularization := 1e-6 }

def standard : Parameters where
  timeStep := standardTimeStep
  horizon := standardHorizon
  stateSize := 4
  controlSize := 2
  arrays := .ofPlant standardPlant
  solver := Solver.fresh 2 standardSettings

/-- The plant that the parameters describe, if they fit together. -/
def sizedPlant? (p : Parameters) : Option SizedPlant := do
  let stateSize ← p.stateSize.toNat?
  let controlSize ← p.controlSize.toNat?
  let horizon ← p.horizon.toNat?
  let plant ← p.arrays.plant? stateSize controlSize
  return { stateSize, controlSize, horizon, plant }

end Parameters

/-- An experiment between two steps. -/
structure Experiment where
  parameters : Parameters
  /-- The state at the first knot. -/
  start : Tensor Float
  controls : Tensor Float
  states : Option (Tensor Float) := none
  feedforward : Option (Tensor Float) := none
  feedback : Option (Tensor Float) := none

namespace Experiment

variable (e : Experiment)

/-! ## Arrays that fit together -/

/-- The start as a state. -/
def start? (n : Nat) : Option (Vec Float n) := e.start.inShape? [n]

/-- The controls of all knots. -/
def controls? (m T : Nat) : Option (Vector (Vec Float m) T) := do
  let controls : Mat Float m T ← e.controls.inShape? [m, T]
  return controls.transpose

/-- The states and controls of all knots. -/
def trajectory? (n m T : Nat) : Option (Trajectory Float n m T) := do
  let states : Mat Float n (T + 1) ← (← e.states).inShape? [n, T + 1]
  return ⟨states.transpose, ← e.controls? m T⟩

/-- The policy of corrections and gains. -/
def policy? (n m T : Nat) : Option (Policy Float n m T) := do
  let corrections : Mat Float m T ← (← e.feedforward).inShape? [m, T]
  let gains ← (← e.feedback).inShape? [T, m, n]
  return ⟨corrections.transpose, gains⟩

/-- The experiment with the states and controls of a trajectory. -/
def withTrajectory {n m T : Nat} (t : Trajectory Float n m T) : Experiment :=
  { e with
    states := some (.ofMatrix (Mat.transpose t.states))
    controls := .ofMatrix (Mat.transpose t.controls) }

/-- The experiment with the corrections and gains of a policy. -/
def withPolicy {n m T : Nat} (policy : Policy Float n m T) : Experiment :=
  { e with
    feedforward := some (.ofMatrix (Mat.transpose policy.feedforward))
    feedback := some ⟨[T, m, n], policy.feedback⟩ }

/-- The experiment with the solver as a step left it. -/
def withSolver (solver : Solver Float) : Experiment :=
  { e with parameters := { e.parameters with solver } }

/-! ## Forward passes -/

/-- The trajectory from the start under the controls as they are, if everything fits together. -/
def fittingRollout? : Option Experiment := do
  let s ← e.parameters.sizedPlant?
  let controls ← e.controls? s.controlSize s.horizon
  return e.withTrajectory (s.plant.follow (openLoop controls) (← e.start? s.stateSize))

/-- The trajectory from the start under the controls as the policy corrects them, if everything fits
together. -/
def fittingForward? : Option Experiment := do
  let s ← e.parameters.sizedPlant?
  let policy ← e.policy? s.stateSize s.controlSize s.horizon
  let reference ← e.trajectory? s.stateSize s.controlSize s.horizon
  return e.withTrajectory (s.plant.follow (policy.around reference) (← e.start? s.stateSize))

/-- A forward pass over arrays. -/
def followArrays (correction : Option (PlantArrays.Correction Float)) :
    Except (StepError Float) Experiment := do
  let p := e.parameters
  let (states, controls) ←
    p.arrays.follow p.stateSize p.controlSize p.horizon e.start e.controls correction
  return { e with states := some states, controls := controls }

/-- Applies the controls as they are. -/
def rollout : Except (StepError Float) Experiment :=
  match e.fittingRollout? with
  | some next => .ok next
  | none => e.followArrays none

/-- Applies the controls with the corrections of the policy, or as they are if there is none. -/
def forward : Except (StepError Float) Experiment :=
  match e.feedforward with
  | none => e.rollout
  | some feedforward => match e.fittingForward? with
    | some next => .ok next
    | none => e.followArrays (some ⟨feedforward, e.feedback, e.states⟩)

/-! ## Backward passes -/

/-- The experiment after a backward pass, with what the pass reported and its error, if it failed.
The solver is kept in any case. -/
structure AfterBackward where
  experiment : Experiment
  trace : Array (PassEvent Float)
  error? : Option (StepError Float)

/-- A backward pass, if everything fits together. -/
def fittingBackward? : Option AfterBackward := do
  let s ← e.parameters.sizedPlant?
  let reference ← e.trajectory? s.stateSize s.controlSize s.horizon
  let (solver, answer) ← e.parameters.solver.backward? s.plant reference
  let e := e.withSolver solver
  return match answer.outcome with
    | .ok policy => ⟨e.withPolicy policy, answer.trace, none⟩
    | .error error => ⟨e, answer.trace, some error.stepError⟩

/-- A backward pass over arrays. -/
def backwardArrays : AfterBackward :=
  let p := e.parameters
  match p.arrays.backward p.stateSize p.controlSize p.horizon p.solver e.states e.controls with
  | .error error => ⟨e, #[], some error⟩
  | .ok (pass, none) => ⟨(e.withSolver pass.solver).withPolicy pass.policy, pass.trace, none⟩
  | .ok (pass, some error) => ⟨e.withSolver pass.solver, pass.trace, some error⟩

/-- Looks for a policy by a backward pass. -/
def backward : AfterBackward := e.fittingBackward?.getD e.backwardArrays

/-! ## Cost -/

/-- The cost of the states and controls, if everything fits together. -/
def fittingCost? : Option Float := do
  let s ← e.parameters.sizedPlant?
  return s.plant.cost (← e.trajectory? s.stateSize s.controlSize s.horizon)

/-- The cost of the states and controls. -/
def cost : Except (StepError Float) Float :=
  match e.fittingCost?, e.states with
  | some cost, _ => .ok cost
  | none, some states => liftM (e.parameters.arrays.cost states e.controls)
  | none, none => .error (.shape .mismatch)

end Experiment

end ProjectedNewton
