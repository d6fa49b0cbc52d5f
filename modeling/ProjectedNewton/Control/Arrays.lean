import ProjectedNewton.Control.Plant
import ProjectedNewton.Solver
import ProjectedNewton.Tensor.Product

/-!
# Plants given by arrays

The arrays that describe a plant may be replaced one by one, so that they need not fit together.
`PlantArrays.plant?` finds the plant that they describe if they do. If they do not, trajectories and
costs are still computed as far as the arrays can be multiplied and broadcast; the sizes of state
and control are then given beside the arrays.

Vectors over time are arrays with one row for every component and one column for every knot. They
may have more columns than there are knots.
-/

namespace ProjectedNewton

open Scalar

/-- Why a step with arrays fails. -/
inductive StepError (α : Type) where
  | shape (error : ShapeError)
  /-- An array that is needed is not there. -/
  | absent
  | solver (failure : Failure α)

variable {α : Type}

instance : MonadLift (Except ShapeError) (Except (StepError α)) := ⟨Except.mapError .shape⟩

/-- An array that is there, or its absence as an error. -/
def present (a : Option (Tensor α)) : Except (StepError α) (Tensor α) :=
  a.elim (.error .absent) .ok

/-- The arrays that describe a plant. -/
structure PlantArrays (α : Type) where
  /-- The lower and upper limit of every control. -/
  limits : Tensor α
  stateCost : Tensor α
  controlCost : Tensor α
  stateMap : Tensor α
  controlMap : Tensor α

/-- The array with the given columns of length `n`. -/
def Tensor.ofColumns {n : Nat} (columns : List (Vec α n)) : Tensor α :=
  .ofMatrix (Mat.transpose (⟨columns.toArray, rfl⟩ : Mat α columns.toArray.size n))

/-- The largest number of entries of an array of doubles that can be addressed. -/
def maxEntries : Nat := Nat.pow 2 60 - 1

/-- Whether there is an array with the given lengths. -/
def allocatable (lengths : List Int) : Bool :=
  lengths.all (0 ≤ ·) &&
    decide ((lengths.filter (· ≠ 0)).foldl (· * ·.toNat) 1 ≤ maxEntries)

namespace PlantArrays

/-- The plant that the arrays describe, if they fit together. -/
def plant? (p : PlantArrays α) (n m : Nat) : Option (Plant α n m) := do
  let limits : Mat α m 2 ← p.limits.inShape? [m, 2]
  return {
    stateMap := ← p.stateMap.inShape? [n, n]
    controlMap := ← p.controlMap.inShape? [n, m]
    stateCost := ← p.stateCost.inShape? [n, n]
    controlCost := ← p.controlCost.inShape? [m, m]
    lower := limits.column 0
    upper := limits.column 1 }

/-- The arrays of a plant. -/
def ofPlant {n m : Nat} (plant : Plant α n m) : PlantArrays α where
  limits := .ofMatrix (Mat.transpose #v[plant.lower, plant.upper])
  stateCost := .ofMatrix plant.stateCost
  controlCost := .ofMatrix plant.controlCost
  stateMap := .ofMatrix plant.stateMap
  controlMap := .ofMatrix plant.controlMap

variable [Scalar α] (p : PlantArrays α) {n m : Nat}

/-! ## Trajectories -/

/-- The arrays that correct the controls of a trajectory. -/
structure Correction (α : Type) where
  feedforward : Tensor α
  feedback : Option (Tensor α)
  /-- The states from which deviations are measured. -/
  states : Option (Tensor α)

/-- The correction of the control at knot `i` in the state `x`. -/
def Correction.proposed (c : Correction α) (i : Nat) (x : Vec α n) :
    Except (StepError α) (Tensor α) := do
  let feedforward ← c.feedforward.column i
  let gain ← (← present c.feedback).slab i
  let deviation ← (Tensor.ofVector x).sub (← (← present c.states).column i)
  feedforward.add (← gain.dot deviation)

/-- The control moved into its limits. -/
def limit (u : Vec α m) : Except (StepError α) (Vec α m) := do
  let limited ← (Tensor.ofVector u).clamp (← p.limits.column 0) (← p.limits.column 1)
  limited.fit [m]

/-- The state after one knot. -/
def next (x : Vec α n) (u : Vec α m) : Except (StepError α) (Vec α n) := do
  let moved ← p.stateMap.dot (.ofVector x)
  (← moved.add (← p.controlMap.dot (.ofVector u))).fit [n]

/-- The control that is applied at knot `i` in the state `x`. -/
def control (controls : Tensor α) (correction : Option (Correction α)) (i : Nat) (x : Vec α n) :
    Except (StepError α) (Vec α m) := do
  let u : Vec α m ← (← controls.column i).fit [m]
  match correction with
  | none => p.limit u
  | some c =>
    let v : Vec α m ← (← c.proposed i x).stretch [m]
    p.limit (u.add v)

/-- The states and controls of the knots from `i` on, beginning with the control at the state `x`
of knot `i`. -/
def followFrom (controls : Tensor α) (correction : Option (Correction α)) :
    (knots i : Nat) → Vec α n → Except (StepError α) (List (Vec α n) × List (Vec α m))
  | 0, _, _ => return ([], [])
  | knots + 1, i, x => do
    let u ← p.control controls correction i x
    let next ← p.next x u
    let (states, controls) ← followFrom controls correction knots (i + 1) next
    return (next :: states, u :: controls)

/-- The states and controls over a horizon of `T` knots, for states of `n` and controls of `m`
components. -/
def follow (n m T : Int) (start controls : Tensor α) (correction : Option (Correction α)) :
    Except (StepError α) (Tensor α × Tensor α) := do
  unless allocatable [n, T + 1] && allocatable [m, T] do throw (.shape .mismatch)
  let x : Vec α n.toNat ← start.fit [n.toNat]
  let (states, controls) ← p.followFrom (m := m.toNat) controls correction T.toNat 0 x
  return (.ofColumns (x :: states), .ofColumns controls)

/-! ## Cost -/

/-- The sum of `uᵀ A u` over the columns `u` of an array. -/
def sumOfForms (A a : Tensor α) : Except ShapeError α := do
  match A.shape, a.shape with
  | [k, l], [r, t] =>
    match commonLength? r k, commonLength? l r with
    | some m, some n =>
      let left : Mat α m t ← a.stretch [m, t]
      let form : Mat α m n ← A.stretch [m, n]
      let right : Mat α n t ← a.stretch [n, t]
      return sum fun i : Fin t => form.form (left.column i) (right.column i)
    | _, _ => throw .mismatch
  | _, _ => throw .mismatch

/-- The cost of states and controls. Both must be there and have two axes. -/
def cost (states controls : Tensor α) : Except ShapeError α := do
  return half * ((← sumOfForms p.stateCost states) + (← sumOfForms p.controlCost controls))

end PlantArrays

end ProjectedNewton
