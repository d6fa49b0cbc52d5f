import ProjectedNewton.Matrix

/-!
# Cholesky factorization

A symmetric matrix `M` is given by its lower triangle; the entries above the diagonal are never
read. `Mat.cholesky` finds the lower triangular `L` with positive diagonal and `L * Lᵀ = M`, or
fails when a pivot is not positive, which is when `M` is not positive definite.

The factor of a matrix of size `n + 1` borders the factor `L` of its leading block with the row `y`
that solves `L * y = b`, where `b` is the last row of `M`, and with the square root of the pivot
`c - y · y`, where `c` is the corner of `M`. Both triangular solvers take the same steps: the last
unknown is found after the others from the front, and before them from the back.

A pivot that is not a number is let through, and then spreads into the results.

The systems with the factor are solved by a routine for any matrix. Before it solves anything, it
eliminates the unknowns one after the other, each with the row in which its coefficient is largest,
and it gives up when all coefficients of an unknown are zero. For a triangular matrix with positive
diagonal this does not happen in exact arithmetic, but rounding may bring it about
(`Mat.isSingular`). Solutions are given by substitution all the same.
-/

namespace ProjectedNewton

open Scalar

variable {α : Type} [Scalar α] {n : Nat}

namespace Mat

/-! ## Triangular systems -/

/-- The solution `y` of `L * y = b`, for lower triangular `L`. -/
def solveLower : {n : Nat} → Mat α n n → Vec α n → Vec α n
  | 0, _, _ => #v[]
  | _ + 1, L, b =>
    let y := solveLower L.leading b.pop
    y.push ((b (Fin.last _) - Vec.dot L.lastRow y) / L.corner)

/-- The solution `z` of `Lᵀ * z = y`, for lower triangular `L`. -/
def solveLowerTransposed : {n : Nat} → Mat α n n → Vec α n → Vec α n
  | 0, _, _ => #v[]
  | _ + 1, L, y =>
    let z := y (Fin.last _) / L.corner
    (solveLowerTransposed L.leading (y.pop.sub (L.lastRow.scale z))).push z

/-! ## Elimination -/

/-- The index of the first row and of the first column. -/
def first : Fin (n + 1) := ⟨0, n.succ_pos⟩

/-- The row with the largest absolute value in the first column, the first of them if there are
several. -/
def pivotRow (A : Mat α (n + 1) (n + 1)) : Fin (n + 1) :=
  Fin.foldl n
    (fun best i => if lt (abs (A best first)) (abs (A i.succ first)) then i.succ else best) first

/-- The matrix with its pivot row and its first row exchanged. -/
def pivoted (A : Mat α (n + 1) (n + 1)) : Mat α (n + 1) (n + 1) :=
  A.swap 0 A.pivotRow n.succ_pos A.pivotRow.isLt

/-- What is left of the other rows when the first column has been eliminated with the first row. -/
def eliminateFirst (A : Mat α (n + 1) (n + 1)) : Mat α n n :=
  ofFn fun i j => A i.succ j.succ - A i.succ first / A first first * A first j.succ

/-- Elimination with row exchanges comes to a pivot of zero. -/
def isSingular : {n : Nat} → Mat α n n → Bool
  | 0, _ => false
  | _ + 1, A => eq (A.pivoted first first) 0 || A.pivoted.eliminateFirst.isSingular

/-! ## The factor -/

/-- The lower triangular factor of the symmetric matrix with the lower triangle of `M`, or nothing
if a pivot is at most zero. -/
def cholesky : {n : Nat} → Mat α n n → Option (Mat α n n)
  | 0, _ => some #v[]
  | _ + 1, M => do
    let L ← cholesky M.leading
    let y := solveLower L M.lastRow
    let pivot := M.corner - Vec.dot y y
    if le pivot 0 then none else some (L.border y (sqrt pivot))

/-- `M + a * I`, and `M` itself for `a = 0`. -/
def shift (M : Mat α n n) (a : α) : Mat α n n :=
  if eq a 0 then M else M.add ((identity n).scale a)

end Mat

/-! ## Factorization with inverse -/

/-- A lower triangular factor `L` and the inverse of `L * Lᵀ`. -/
structure Factorization (α : Type) (n : Nat) where
  lower : Mat α n n
  inverse : Mat α n n

/-- A matrix that was to be factorized is not positive definite. In a run this is the Hessian of the
free coordinates. -/
structure NotPositiveDefinite (α : Type) where
  /-- The number of rows. -/
  size : Int
  regularization : α
  deriving DecidableEq

/-- Why a matrix is not factorized. -/
inductive FactorizationError (α : Type) where
  | notPositiveDefinite (error : NotPositiveDefinite α)
  /-- The factor is found, but a system with it is taken to be singular. -/
  | singular
  deriving DecidableEq

namespace Factorization

/-- The solution `z` of `L * Lᵀ * z = b`. -/
def solveFactor (L : Mat α n n) (b : Vec α n) : Vec α n :=
  L.solveLowerTransposed (L.solveLower b)

/-- The factor of `M + regularization * I` and the inverse, whose columns solve the system for the
columns of the identity. -/
def make (M : Mat α n n) (regularization : α) :
    Except (FactorizationError α) (Factorization α n) :=
  match (M.shift regularization).cholesky with
  | none => .error (.notPositiveDefinite ⟨n, regularization⟩)
  | some L =>
    if L.isSingular || L.transpose.isSingular then .error .singular
    else
      let columns : Mat α n n := (Mat.identity n).map (solveFactor L)
      .ok ⟨L, columns.transpose⟩

/-- The factorization of `M + regularization * I`, if it can be made. -/
def of? (M : Mat α n n) (regularization : α) : Option (Factorization α n) :=
  (make M regularization).toOption

/-- The solution of the factored system for the right side `b`. -/
def solve (F : Factorization α n) (b : Vec α n) : Vec α n := solveFactor F.lower b

end Factorization

end ProjectedNewton
