import ProjectedNewton.Tensor.Broadcast

/-!
# Axes

Parts of an array at given indices of its first two axes, and the transposed array, whose axes stand
in the opposite order.
-/

namespace ProjectedNewton

variable {α : Type}

/-! ## Transposition -/

/-- The lengths in the opposite order. -/
@[reducible] def transposedShape : List Nat → List Nat
  | [] => []
  | n :: shape => transposedShape shape ++ [n]

/-- The grid with its axes in the opposite order. -/
def Grid.transpose : (shape : List Nat) → Grid α shape → Grid α (transposedShape shape)
  | [], x => x
  | n :: shape, v => stack _ n fun i => transpose shape (Vec.entry v i)

namespace Tensor

/-- The array with its axes in the opposite order. -/
def transpose (a : Tensor α) : Tensor α := ⟨transposedShape a.shape, a.entries.transpose a.shape⟩

theorem transpose_ofMatrix {m n : Nat} (A : Mat α m n) :
    (ofMatrix A).transpose = ofMatrix A.transpose := by
  refine congrArg (ofMatrix (m := n) (n := m)) (Vec.ext_entry fun j => Vec.ext_entry fun i => ?_)
  simp [ofMatrix, Grid.transpose, Grid.stack, Mat.transpose, Mat.ofFn, Vec.entry]

/-! ## Parts -/

/-- The part at index `j` of the second axis: a column, if the array is a matrix. -/
def column (a : Tensor α) (j : Nat) : Except ShapeError (Tensor α) :=
  match a with
  | ⟨m :: n :: shape, rows⟩ =>
    if h : j < n then .ok ⟨m :: shape, Vector.map (fun row => Vec.entry row ⟨j, h⟩) rows⟩
    else .error .outOfRange
  | _ => .error .outOfRange

/-- The part at index `i` of the first axis of an array with at least three axes. -/
def slab (a : Tensor α) (i : Nat) : Except ShapeError (Tensor α) :=
  match a with
  | ⟨l :: m :: n :: shape, slabs⟩ =>
    if h : i < l then .ok ⟨m :: n :: shape, Vec.entry slabs ⟨i, h⟩⟩ else .error .outOfRange
  | _ => .error .outOfRange

/-- The parts at the listed indices of the first axis of an array with at least two axes. -/
def pickRows (a : Tensor α) (indices : List Nat) : Except ShapeError (Tensor α) :=
  match a with
  | ⟨m :: n :: shape, rows⟩ =>
    if h : ∀ i ∈ indices, i < m then
      let picked := indices.attach.map fun i => Vec.entry rows ⟨i.val, h i.val i.property⟩
      .ok ⟨picked.length :: n :: shape, ⟨picked.toArray, by simp⟩⟩
    else .error .outOfRange
  | _ => .error .outOfRange

end Tensor

end ProjectedNewton
