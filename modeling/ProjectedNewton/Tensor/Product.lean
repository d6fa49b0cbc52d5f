import ProjectedNewton.Problem
import ProjectedNewton.Tensor.Axis

/-!
# Products of arrays

The product of two arrays runs over the last axis of the first and the last but one of the second
array; an array with one axis has only that one to offer. So it is the scalar product of two
vectors, the product of a matrix and a vector, and that of two matrices. Any other axes stay, those
of the first array in front. An array without axes multiplies every entry of the other one.

To this end an array is seen as a grid of its fibres, the vectors along one of its axes. For vectors
and matrices `Tensor.dot` is the product they already have (`dot_ofVector`, `ofMatrix_dot_ofVector`,
`ofMatrix_dot_ofMatrix`).

The objective of a problem, its gradient and the split into free and clamped coordinates are given
for arrays that have not been checked for their shapes. They are multiplied and broadcast as far as
their shapes agree; for arrays in the shapes of a `Problem` nothing is stretched.
-/

namespace ProjectedNewton

/-- A grid of vectors of one length. -/
structure Fibers (α : Type) where
  length : Nat
  shape : List Nat
  vectors : Grid (Vec α length) shape

variable {α : Type}

/-! ## Fibres along the last axis -/

/-- The length of the last axis. -/
@[reducible] def lastLength : Nat → List Nat → Nat
  | n, [] => n
  | _, n :: shape => lastLength n shape

/-- The shape without the last axis. -/
@[reducible] def shapeBeforeLast : Nat → List Nat → List Nat
  | _, [] => []
  | m, n :: shape => m :: shapeBeforeLast n shape

def Grid.lastFibers : (n : Nat) → (shape : List Nat) → Grid α (n :: shape) →
    Grid (Vec α (lastLength n shape)) (shapeBeforeLast n shape)
  | _, [], v => v
  | _, n :: shape, v => Vector.map (lastFibers n shape) v

/-! ## Fibres along the last axis but one -/

/-- The length of the last axis but one. -/
@[reducible] def innerLength : Nat → Nat → List Nat → Nat
  | m, _, [] => m
  | _, n, k :: shape => innerLength n k shape

/-- The shape without the last axis but one. -/
@[reducible] def shapeAroundInner : Nat → Nat → List Nat → List Nat
  | _, n, [] => [n]
  | m, n, k :: shape => m :: shapeAroundInner n k shape

def Grid.innerFibers : (m n : Nat) → (shape : List Nat) → Grid α (m :: n :: shape) →
    Grid (Vec α (innerLength m n shape)) (shapeAroundInner m n shape)
  | _, _, [], v => Mat.transpose v
  | _, n, k :: shape, v => Vector.map (innerFibers n k shape) v

namespace Tensor

/-- The vectors along the last axis, if there is one. -/
def lastFibers? (a : Tensor α) : Option (Fibers α) :=
  match a with
  | ⟨[], _⟩ => none
  | ⟨n :: shape, v⟩ => some ⟨_, _, Grid.lastFibers n shape v⟩

/-- The vectors along the last axis but one, or along the only one, if there is one. -/
def innerFibers? (a : Tensor α) : Option (Fibers α) :=
  match a with
  | ⟨[], _⟩ => none
  | ⟨[n], v⟩ => some ⟨n, [], v⟩
  | ⟨m :: n :: shape, v⟩ => some ⟨_, _, Grid.innerFibers m n shape v⟩

end Tensor

/-! ## Products -/

variable [Scalar α]

/-- The scalar products of all vectors of two grids, unless they have too many axes together. -/
def Fibers.products (u v : Fibers α) : Except ShapeError (Tensor α) :=
  if Tensor.maxDimensions < u.shape.length + v.shape.length then .error .mismatch
  else if h : v.length = u.length then
    .ok ⟨u.shape ++ v.shape,
      Grid.outer (fun x y => Vec.dot x (h ▸ y)) u.shape v.shape u.vectors v.vectors⟩
  else .error .mismatch

theorem Fibers.products_mk {l : Nat} {s t : List Nat} (u : Grid (Vec α l) s)
    (v : Grid (Vec α l) t) (h : s.length + t.length ≤ Tensor.maxDimensions) :
    Fibers.products ⟨l, s, u⟩ ⟨l, t, v⟩ = .ok ⟨s ++ t, Grid.outer Vec.dot s t u v⟩ := by
  rw [Fibers.products, if_neg (Nat.not_lt.2 h), dif_pos rfl]

/-- The product of two arrays. -/
def Tensor.dot (a b : Tensor α) : Except ShapeError (Tensor α) :=
  match a.lastFibers?, b.innerFibers? with
  | some u, some v => u.products v
  | _, _ => a.zipWith (· * ·) b

namespace Tensor

variable {l m n : Nat}

theorem dot_ofVector (u v : Vec α n) :
    (ofVector u).dot (ofVector v) = .ok (ofScalar (Vec.dot u v)) :=
  Fibers.products_mk (l := n) (s := []) (t := []) u v (by simp [maxDimensions])

theorem ofMatrix_dot_ofVector (A : Mat α m n) (v : Vec α n) :
    (ofMatrix A).dot (ofVector v) = .ok (ofVector (A.mulVec v)) := by
  refine (Fibers.products_mk (l := n) (s := [m]) (t := []) (Grid.lastFibers m [n] A) v
    (by simp [maxDimensions])).trans ?_
  refine congrArg (fun w : Vec α m => Except.ok (ofVector w)) (Vec.ext_entry fun i => ?_)
  simp [Mat.mulVec, Grid.outer, Grid.lastFibers, Grid.map, Vec.entry]

theorem ofMatrix_dot_ofMatrix (A : Mat α l m) (B : Mat α m n) :
    (ofMatrix A).dot (ofMatrix B) = .ok (ofMatrix (A.mul B)) := by
  refine (Fibers.products_mk (l := m) (s := [l]) (t := [n]) (Grid.lastFibers l [m] A)
    (Grid.innerFibers m n [] B) (by simp [maxDimensions])).trans ?_
  refine congrArg (fun C : Mat α l n => Except.ok (ofMatrix C)) ?_
  refine Vec.ext_entry fun i => Vec.ext_entry fun j => ?_
  simp [Mat.mul, Grid.outer, Grid.lastFibers, Grid.innerFibers, Grid.map, Vec.entry, Mat.ofFn,
    Vec.dot, Mat.transpose]

/-! ## Objective and partition -/

open Scalar

/-- The value `½ xᵀ H x + qᵀ x`, which need not be a number. -/
def quadraticValue (H q x : Tensor α) : Except ShapeError (Tensor α) := do
  let curvature ← x.dot (← H.dot x)
  (curvature.scale half).add (← q.dot x)

/-- The gradient `H x + q` at a vector. The product must be a vector of the same length. -/
def gradient {n : Nat} (H q : Tensor α) (x : Vec α n) : Except ShapeError (Vec α n) := do
  match (← H.dot (ofVector x)).inShape? [n] with
  | some (v : Vec α n) => return v.add (← q.stretch [n])
  | none => throw .mismatch

/-- Which entries of `x` sit on a bound while the gradient `g` pushes them outwards. -/
def clamped (x g lower upper : Tensor α) : Except ShapeError (Tensor Bool) := do
  let below ← (← x.zipWith eq lower).zipWith and (g.map fun a => lt 0 a)
  let above ← (← x.zipWith eq upper).zipWith and (g.map fun a => lt a 0)
  below.zipWith or above

/-- The positions of the entries with a given value, counted through the whole array. -/
def positionsOf (a : Tensor Bool) (value : Bool) : List Nat :=
  (a.entries.toList a.shape).zipIdx.filterMap fun (b, i) => if b == value then some i else none

end Tensor

end ProjectedNewton
