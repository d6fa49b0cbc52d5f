import ProjectedNewton.Control.Experiment
import ProjectedNewton.Solution.Text

/-!
# A demonstration

The standard experiment, started from rest controls and improved by five rounds of a backward and a
forward pass. One line tells the cost before the rounds, and one line after every round its cost and
how many controls have reached the upper limit in absolute value. A backward pass that is logged
writes the lines of the solver, and one line for every knot.
-/

namespace ProjectedNewton

open Decimal

/-! ## The text of a backward pass -/

namespace PassEvent

/-- The objective of a correction: four digits, and a blank for the sign. -/
def valueField : GeneralField := { precision := 4, width := 10, signBlank := true }

/-- The line of an event. -/
def text : PassEvent Float → String
  | solver event => event.text
  | knot index value clamped iterations =>
    "knot " ++ padRight 3 (toString index) ++ "  Q(k) " ++ valueField.render value ++
      "  clamped " ++ Text.indexList (clamped.map Int.ofNat) ++
      "  iterations " ++ toString iterations

end PassEvent

/-! ## The demonstration -/

namespace Demonstration

/-- The number of rounds. -/
def rounds : Nat := 5

/-- A cost: six digits. -/
def costField : GeneralField := { width := 12 }

/-- The point starts away from the origin, at rest, and no force is applied. -/
def beginning : Experiment where
  parameters := .standard
  start := .ofVector #v[(1 : Float), -1, 0, 0]
  controls := .ofMatrix (Mat.zero 2 Parameters.standardHorizon)

/-- Two numbers are equal up to an absolute and a relative tolerance, the latter of the second one.
-/
def isClose (a b : Float) : Bool := a == b || decide ((a - b).abs ≤ 1e-8 + 1e-5 * b.abs)

/-- The number of controls that have reached the upper limit in absolute value. -/
def saturated {n m T : Nat} (plant : Plant Float n m) (t : Trajectory Float n m T) : Nat :=
  (t.controls.toList.flatMap fun u =>
    (List.finRange m).filter fun i => isClose (Vec.entry u i).abs (plant.upper i)).length

/-- A backward and a forward pass. -/
def round (e : Experiment) : Except (StepError Float) Experiment :=
  match e.backward with
  | ⟨e, _, none⟩ => e.forward
  | ⟨_, _, some error⟩ => .error error

/-- The number of controls of an experiment that have reached their limit. -/
def saturated? (e : Experiment) : Option Nat := do
  let s ← e.parameters.sizedPlant?
  return saturated s.plant (← e.trajectory? s.stateSize s.controlSize s.horizon)

/-- The line after a round. -/
def roundLine (number : Nat) (e : Experiment) : Except (StepError Float) String := do
  let reached ← (saturated? e).elim (.error (.shape .mismatch)) .ok
  return "iteration " ++ toString number ++ "  cost " ++ costField.render (← e.cost) ++
    "  saturated controls " ++ toString reached

/-- The lines of the rounds from a given number on. -/
def roundLines : (count number : Nat) → Experiment → Except (StepError Float) (List String)
  | 0, _, _ => return []
  | count + 1, number, e => do
    let e ← round e
    return (← roundLine number e) :: (← roundLines count (number + 1) e)

/-- All lines of the demonstration. -/
def lines : Except (StepError Float) (List String) := do
  let e ← beginning.rollout
  return ("initial cost: " ++ costField.render (← e.cost)) :: (← roundLines rounds 1 e)

end Demonstration

end ProjectedNewton
