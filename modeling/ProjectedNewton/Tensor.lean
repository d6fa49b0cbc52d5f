import ProjectedNewton.Datum
import ProjectedNewton.Grid

/-!
# Arrays of any shape

A `Tensor` is a grid together with its shape. Its rank is the number of its axes.

`Tensor.ofDatum` reads nested lists. First the shape is found, which fails unless all lists at one
depth have one length and no list stands beside an entry; then the entries are read in their order,
and the first that cannot be read decides the error.

`Tensor.reshape?` takes the entries of an array in their order, with the index along the last axis
running fastest, and fills an array of another shape with them, if their number is the same.
-/

namespace ProjectedNewton

/-- An array of any shape. -/
structure Tensor (α : Type) where
  shape : List Nat
  entries : Grid α shape

namespace Tensor

variable {α : Type}

/-- The entries, if the array has the given shape. -/
def inShape? (t : Tensor α) (shape : List Nat) : Option (Grid α shape) :=
  if h : t.shape = shape then some (h ▸ t.entries) else none

/-- The vector as an array. -/
def ofVector {n : Nat} (v : Vector α n) : Tensor α := ⟨[n], v⟩

/-- The matrix as an array. -/
def ofMatrix {m n : Nat} (A : Vector (Vector α n) m) : Tensor α := ⟨[m, n], A⟩

/-! ## Reading -/

/-- The largest number of dimensions. -/
def maxDimensions : Nat := 64

/-- The common shape of the elements of a list, with its length in front. The empty list has one
dimension. -/
def joinShapes (shapes : List (List Nat)) : Except ReadError (List Nat) :=
  match shapes with
  | [] => .ok [0]
  | shape :: rest =>
    if rest.all (· == shape) then .ok ((rest.length + 1) :: shape) else .error .malformed

/-- The shape of nested lists. -/
def shapeOf : Datum → Except ReadError (List Nat)
  | .list elements => do joinShapes (← elements.attach.mapM fun ⟨d, _⟩ => shapeOf d)
  | _ => .ok []

/-- The entries of nested lists of a given shape. -/
def readEntries : (shape : List Nat) → Datum → Except ReadError (Grid Float shape)
  | [], d => d.scalar
  | n :: shape, .list elements =>
    if h : elements.toArray.size = n then
      (Vector.mk elements.toArray h).mapM (readEntries shape)
    else .error .malformed
  | _ :: _, _ => .error .malformed

/-- The array that nested lists spell. -/
def ofDatum (d : Datum) : Except ReadError (Tensor Float) := do
  let shape ← shapeOf d
  if maxDimensions < shape.length then throw .malformed
  return ⟨shape, ← readEntries shape d⟩

/-- The array of numbers that nested lists hold. Texts and null values do not count as numbers. -/
def ofNumbers (d : Datum) : Except ReadError (Tensor Float) := do
  let _ ← shapeOf d
  if d.isNumeric then ofDatum d else throw .wrongKind

end Tensor

/-! ## Reshaping -/

variable {α : Type}

/-- Takes the first element off a list. -/
def takeFirst? : StateT (List α) Option α
  | [] => none
  | x :: rest => some (x, rest)

/-- Fills a grid with the first elements of a list. -/
def Grid.fill? : (shape : List Nat) → StateT (List α) Option (Grid α shape)
  | [] => takeFirst?
  | n :: shape => (Vector.replicate n ()).mapM fun _ => fill? shape

namespace Tensor

/-- The entries of an array in another shape. -/
def reshape? (a : Tensor α) (shape : List Nat) : Option (Grid α shape) :=
  let entries := a.entries.toList a.shape
  if entries.length = shape.foldl (· * ·) 1 then
    ((Grid.fill? shape).run entries).map (·.1)
  else none

/-- The only entry of an array. -/
def single? (a : Tensor α) : Option α := a.reshape? []

end Tensor

end ProjectedNewton
