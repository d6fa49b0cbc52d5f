import ProjectedNewton.Problem

/-!
# Controlled plants

A plant moves from a state `x` under a control `u` to `A x + B u`. Its controls have limits, and a
trajectory costs `½ xᵀ Q x` for every state and `½ uᵀ R u` for every control.

A trajectory is made by following a control law knot by knot: the law proposes a control for the
state that was reached, and the plant limits it before it is applied.
-/

namespace ProjectedNewton

open Scalar

/-- A linear plant with `n` state and `m` control components, quadratic costs and control limits. -/
structure Plant (α : Type) (n m : Nat) where
  /-- How the state moves by itself: `A`. -/
  stateMap : Mat α n n
  /-- How the control moves the state: `B`. -/
  controlMap : Mat α n m
  /-- The cost of a state: `Q`. -/
  stateCost : Mat α n n
  /-- The cost of a control: `R`. -/
  controlCost : Mat α m m
  lower : Vec α m
  upper : Vec α m

/-- The states and controls over a horizon of `T` knots. -/
structure Trajectory (α : Type) (n m T : Nat) where
  states : Vector (Vec α n) (T + 1)
  controls : Vector (Vec α m) T

/-- A control law: the control that is proposed at a knot for a state. -/
abbrev ControlLaw (α : Type) (n m T : Nat) := Fin T → Vec α n → Vec α m

/-- A correction of given controls: a feedforward part and gains for the deviation of the state. -/
structure Policy (α : Type) (n m T : Nat) where
  feedforward : Vector (Vec α m) T
  feedback : Vector (Mat α m n) T

variable {α : Type} {n m T : Nat}

namespace Trajectory

/-- The state at knot `i`, or behind the last one. -/
def state (t : Trajectory α n m T) (i : Fin (T + 1)) : Vec α n := t.states i

/-- The control at knot `i`. -/
def control (t : Trajectory α n m T) (i : Fin T) : Vec α m := t.controls i

end Trajectory

namespace Policy

/-- The feedforward part at knot `i`. -/
def correction (policy : Policy α n m T) (i : Fin T) : Vec α m := policy.feedforward i

/-- The gain at knot `i`. -/
def gain (policy : Policy α n m T) (i : Fin T) : Mat α m n := policy.feedback i

end Policy

/-! ## Control laws -/

/-- The given controls, whatever the state. -/
def openLoop (controls : Vector (Vec α m) T) : ControlLaw α n m T := fun i _ => controls i

variable [Scalar α]

/-- The controls of a trajectory, corrected by a policy. -/
def Policy.around (policy : Policy α n m T) (reference : Trajectory α n m T) :
    ControlLaw α n m T := fun i x =>
  let deviation := x.sub (reference.state i.castSucc)
  (reference.control i).add ((policy.correction i).add ((policy.gain i).mulVec deviation))

namespace Plant

variable (plant : Plant α n m)

/-- The state after one knot. -/
def next (x : Vec α n) (u : Vec α m) : Vec α n :=
  (plant.stateMap.mulVec x).add (plant.controlMap.mulVec u)

/-- The control moved into its limits. -/
def limit (u : Vec α m) : Vec α m :=
  Vector.ofFn fun i => clamp (u i) (plant.lower i) (plant.upper i)

/-! ## Trajectories -/

/-- The first `k` knots of the trajectory from `x` under a control law. -/
def followTo (law : ControlLaw α n m T) (x : Vec α n) : (k : Nat) → k ≤ T → Trajectory α n m k
  | 0, _ => ⟨#v[x], #v[]⟩
  | k + 1, h =>
    let past := followTo law x k (Nat.le_of_succ_le h)
    let x := past.state (Fin.last k)
    let u := plant.limit (law ⟨k, h⟩ x)
    ⟨past.states.push (plant.next x u), past.controls.push u⟩

/-- The trajectory from `x` under a control law. -/
def follow (law : ControlLaw α n m T) (x : Vec α n) : Trajectory α n m T :=
  plant.followTo law x T (Nat.le_refl T)

/-- The cost of a trajectory. -/
def cost (t : Trajectory α n m T) : α :=
  half * ((sum fun i : Fin (T + 1) => plant.stateCost.form (t.state i) (t.state i)) +
    sum fun i : Fin T => plant.controlCost.form (t.control i) (t.control i))

end Plant

end ProjectedNewton
