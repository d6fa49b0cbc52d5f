import ProjectedNewton.Matrix

/-!
# Box-constrained quadratic problems

Minimize `½ xᵀ H x + qᵀ x` over the box `lower ≤ x ≤ upper`.

At a point of the box, a coordinate is *clamped* when it sits on one of its bounds and the gradient
pushes it outwards; every other coordinate is *free*. `Problem.partition` lists both kinds in
increasing order.
-/

namespace ProjectedNewton

open Scalar

/-- A quadratic objective with Hessian `hessian` and linear term `linear`, and a box. -/
structure Problem (α : Type) (n : Nat) where
  hessian : Mat α n n
  linear : Vec α n
  lower : Vec α n
  upper : Vec α n

/-- The free and the clamped coordinates of a point, each in increasing order. -/
structure Partition (n : Nat) where
  free : List (Fin n)
  clamped : List (Fin n)
  deriving DecidableEq

variable {α : Type} {n : Nat}

namespace Problem

variable (p : Problem α n) (part : Partition n)

/-! ## Blocks of the Hessian -/

/-- The block of the Hessian in the free coordinates. -/
def freeHessian : Mat α part.free.length part.free.length :=
  p.hessian.block part.free part.free

/-- The block of the Hessian that couples the free to the clamped coordinates. -/
def crossHessian : Mat α part.free.length part.clamped.length :=
  p.hessian.block part.free part.clamped

end Problem

variable [Scalar α]

/-! ## Objective and box -/

/-- The value `½ xᵀ H x + qᵀ x` of a quadratic objective. -/
def quadraticValue (H : Mat α n n) (q x : Vec α n) : α :=
  half * x.dot (H.mulVec x) + q.dot x

namespace Problem

variable (p : Problem α n)

def value (x : Vec α n) : α := quadraticValue p.hessian p.linear x

def gradient (x : Vec α n) : Vec α n := (p.hessian.mulVec x).add p.linear

/-- The point of the box nearest to `x`, found coordinate by coordinate. -/
def project (x : Vec α n) : Vec α n :=
  Vector.ofFn fun i => clamp (x i) (p.lower i) (p.upper i)

/-! ## Free and clamped coordinates -/

/-- Coordinate `i` of `x` sits on a bound, and the gradient `g` pushes it outwards. -/
def isClamped (x g : Vec α n) (i : Fin n) : Bool :=
  (eq (x i) (p.lower i) && lt 0 (g i)) || (eq (x i) (p.upper i) && lt (g i) 0)

/-- The split of the coordinates at the point `x` with gradient `g`. -/
def partition (x g : Vec α n) : Partition n where
  free := (List.finRange n).filter fun i => !p.isClamped x g i
  clamped := (List.finRange n).filter fun i => p.isClamped x g i

end Problem

end ProjectedNewton
