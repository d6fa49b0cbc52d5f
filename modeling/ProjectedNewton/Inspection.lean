import ProjectedNewton.Failure
import ProjectedNewton.Tensor.Product

/-!
# Inspection

What a solver computes on its way, for given arrays: the objective and the partition at a point, and
the factorization of a matrix. The shapes of the arrays are not checked as in a solve; they are
combined as far as they can be. Nor is the regularization checked.
-/

namespace ProjectedNewton.Inspection

/-- The objective at a point, if it is a number. -/
def objective (H q x : Tensor Float) : Except (Failure Float) Float := do
  let value ← (H.quadraticValue q x).mapError .shape
  value.single?.elim (.error (.unreadable .wrongKind)) .ok

/-! ## Points -/

/-- A vector with at least one entry. -/
structure Point where
  size : Nat
  coordinates : Vec Float size

/-- The gradient at a point, and the positions of the free and the clamped coordinates. -/
structure PointReport where
  gradient : List Float
  free : List Nat
  clamped : List Nat

/-- The point with as many coordinates as the first axis of an array is long. The array is stored
in it as it is, or stretched. -/
def point (x : Tensor Float) : Except (Failure Float) Point :=
  match x.shape with
  | [] => .error (.unreadable .wrongKind)
  | 0 :: _ => .error (.rejected (.outOfRange .dimension))
  | n :: _ => return ⟨n, ← (x.fit [n]).mapError .shape⟩

/-- The gradient and the partition at a point. -/
def Point.report (x : Point) (H q lower upper : Tensor Float) :
    Except (Failure Float) PointReport :=
  Except.mapError .shape do
    let g ← H.gradient q x.coordinates
    let flags ← Tensor.clamped (.ofVector x.coordinates) (.ofVector g) lower upper
    return ⟨g.toList, flags.positionsOf false, flags.positionsOf true⟩

/-! ## Factorizations -/

/-- A square matrix with its size. -/
structure SquareMatrix where
  size : Nat
  entries : Mat Float size size

/-- A factorization with its size. -/
structure SomeFactorization where
  size : Nat
  factorization : Factorization Float size

/-- The square matrix of size `n` whose rows are the entries of an array. -/
def squareMatrix (n : Int) (M : Tensor Float) : Except (Failure Float) SquareMatrix := do
  let some size := n.toNat? | throw (.shape .mismatch)
  let some entries := M.reshape? [size, size] | throw (.shape .mismatch)
  return ⟨size, entries⟩

namespace SquareMatrix

variable (M : SquareMatrix)

/-- The factorization with a number as regularization. -/
def factorizationWith (regularization : Float) : Except (Failure Float) SomeFactorization :=
  match Factorization.make M.entries regularization with
  | .ok F => .ok ⟨M.size, F⟩
  | .error e => .error e.failure

/-- The factorization with a regularization for every place of the identity, over which `r` is
stretched. What is not positive definite cannot be reported for lack of a single number. -/
def factorizationSpread (r : Tensor Float) : Except (Failure Float) SomeFactorization := do
  let shift ← (r.zipWith (· * ·) (.ofMatrix (Mat.identity M.size))).mapError .shape
  let shifted ← ((Tensor.ofMatrix M.entries).add shift).mapError .shape
  match shifted.inShape? [M.size, M.size] with
  | some (shifted : Mat Float M.size M.size) =>
    match Factorization.make shifted 0 with
    | .ok F => return ⟨M.size, F⟩
    | .error (.notPositiveDefinite _) => throw (.unreadable .wrongKind)
    | .error .singular => throw .singular
  | none => throw (.unreadable .wrongKind)

/-- The factorization with a regularization of any kind, which an empty matrix does not need. -/
def factorization (regularization : Datum) : Except (Failure Float) SomeFactorization :=
  if M.size = 0 then M.factorizationWith 0
  else match regularization, regularization.number? with
    | _, some r => do M.factorizationWith (← r.toFloat.mapError .unreadable)
    | .list _, none => do
      M.factorizationSpread (← (Tensor.ofNumbers regularization).mapError .unreadable)
    | _, none => .error (.unreadable .wrongKind)

end SquareMatrix

end ProjectedNewton.Inspection
