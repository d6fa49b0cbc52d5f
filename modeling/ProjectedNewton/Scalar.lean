/-!
# Scalars

The solver is written once for every kind of number. A `Scalar` has the four operations, a square
root and an absolute value, and two tests, "less than" and "equal to". No law is asked for: doubles
with infinities and NaN are scalars, and so are the real numbers.

Orders and bounds are derived from the two tests. On doubles, both tests are false when an operand
is NaN, so `larger` and `smaller` say explicitly that a NaN on the left is kept, and a NaN on the
right wins because no comparison with it holds.
-/

namespace ProjectedNewton

/-- Numbers on which the solver can run: operations and tests, without laws. -/
class Scalar (α : Type) extends Zero α, One α, Add α, Sub α, Mul α, Div α, Neg α where
  /-- One half: the weight of the quadratic term and the ratio of two step lengths. -/
  half : α
  sqrt : α → α
  abs : α → α
  /-- The test `a < b`. -/
  lt : α → α → Bool
  /-- The test `a = b`, which need not be reflexive. -/
  eq : α → α → Bool

instance : Scalar Float where
  zero := 0.0
  one := 1.0
  half := 0.5
  sqrt := Float.sqrt
  abs := Float.abs
  lt a b := decide (a < b)
  eq a b := a == b

namespace Scalar

variable {α : Type} [Scalar α]

/-- The test `a ≤ b`. -/
def le (a b : α) : Bool := lt a b || eq a b

/-- A number that differs from itself is not a number. -/
def isNaN (a : α) : Bool := !eq a a

/-! ## Bounds -/

/-- The larger of two numbers, the second one when they are equal; NaN if one of them is. -/
def larger (a b : α) : α := if isNaN a then a else if lt b a then a else b

/-- The smaller of two numbers, the second one when they are equal; NaN if one of them is. -/
def smaller (a b : α) : α := if isNaN a then a else if lt a b then a else b

/-- `v` moved into the interval from `lower` to `upper`. If the bounds are crossed, `upper` wins. -/
def clamp (v lower upper : α) : α := smaller (larger v lower) upper

/-! ## Sums and powers -/

/-- The sum of `f 0, f 1, …`, added up in this order from zero. A single term is left as it is, so
that a negative zero keeps its sign. -/
def sum : {n : Nat} → (Fin n → α) → α
  | 1, f => f 0
  | n, f => Fin.foldl n (fun acc i => acc + f i) 0

/-- `halving i` is `1 / 2 ^ i`. -/
def halving : Nat → α
  | 0 => 1
  | i + 1 => halving i * half

end Scalar

end ProjectedNewton
