import ProjectedNewton.Tensor

/-!
# Broadcasting

Arrays of different shapes are combined entry by entry after they have been stretched to a common
shape. Shapes are compared from their last axis on. Along an axis, two lengths agree if they are
equal or one of them is one, and an entry that stands alone along an axis is repeated as often as
needed; an array of smaller rank is repeated along the axes that it lacks.

`alignment? s t` says whether an array of shape `s` can be stretched to the shape `t`, and sends
every position of the stretched array to the one its entry is taken from. Arrays of one shape are
not stretched at all (`stretch_self`), so that for them the operations below are those of vectors
and matrices (`add_ofVector`).
-/

namespace ProjectedNewton

/-- Why arrays cannot be combined. -/
inductive ShapeError where
  /-- Two shapes do not agree. -/
  | mismatch
  /-- An index is beyond its axis, or there is no such axis. -/
  | outOfRange
  deriving DecidableEq

variable {α β γ : Type}

/-! ## Shapes -/

/-- Where the entries come from when an array of shape `s` is stretched to the shape `t`. -/
def alignment? : (s t : List Nat) → Option (Position t → Position s)
  | [], _ => some fun _ => ()
  | _ :: _, [] => none
  | m :: s, n :: t =>
    if s.length < t.length then (alignment? (m :: s) t).map fun source p => source p.2
    else do
      let source ← alignment? s t
      if h : n = m then some fun p => (h ▸ p.1, source p.2)
      else if h : m = 1 then some fun p => (⟨0, h ▸ Nat.one_pos⟩, source p.2)
      else none

/-- The common length of two axes. -/
def commonLength? (m n : Nat) : Option Nat :=
  if m = n ∨ n = 1 then some m else if m = 1 then some n else none

/-- The common shape of two shapes whose axes are listed from the last one on. -/
def commonShapeFromLast? : List Nat → List Nat → Option (List Nat)
  | [], t => some t
  | s, [] => some s
  | m :: s, n :: t => do return (← commonLength? m n) :: (← commonShapeFromLast? s t)

/-- The shape to which arrays of two shapes are stretched. -/
def commonShape? (s t : List Nat) : Option (List Nat) :=
  (commonShapeFromLast? s.reverse t.reverse).map List.reverse

theorem alignment?_self (s : List Nat) : alignment? s s = some id := by
  induction s with
  | nil => rfl
  | cons n s ih =>
    simp only [alignment?, ih, Nat.lt_irrefl, ↓reduceIte]
    rfl

theorem commonShapeFromLast?_self (s : List Nat) : commonShapeFromLast? s s = some s := by
  induction s with
  | nil => rfl
  | cons n s ih => simp [commonShapeFromLast?, commonLength?, ih]

theorem commonShape?_self (s : List Nat) : commonShape? s s = some s := by
  simp [commonShape?, commonShapeFromLast?_self]

/-! ## Stretching -/

namespace Tensor

/-- The entries of an array that is stretched to a shape. -/
def stretch (a : Tensor α) (shape : List Nat) : Except ShapeError (Grid α shape) :=
  match alignment? a.shape shape with
  | some source => .ok (.ofFn shape fun p => Grid.entry a.shape a.entries (source p))
  | none => .error .mismatch

@[simp] theorem stretch_self (a : Tensor α) : a.stretch a.shape = .ok a.entries := by
  simp [stretch, alignment?_self]

/-- The array without its first axes of length one, as far as its rank is above `rank`. -/
def dropUnitAxes (rank : Nat) : (shape : List Nat) → Grid α shape → Tensor α
  | [], x => ⟨[], x⟩
  | n :: shape, v =>
    if h : rank < (n :: shape).length ∧ n = 1 then
      dropUnitAxes rank shape (Vec.entry v ⟨0, h.2 ▸ Nat.one_pos⟩)
    else ⟨n :: shape, v⟩

/-- The entries of an array that is stored in a place of a given shape. First axes of length one
that the place does not have are dropped. -/
def fit (a : Tensor α) (shape : List Nat) : Except ShapeError (Grid α shape) :=
  (dropUnitAxes shape.length a.shape a.entries).stretch shape

/-! ## Combining -/

/-- The array with a function applied to every entry. -/
def map (f : α → β) (a : Tensor α) : Tensor β := ⟨a.shape, a.entries.map f a.shape⟩

/-- The values of a function at the entries of two arrays in their common shape. -/
def zipWith (f : α → β → γ) (a : Tensor α) (b : Tensor β) : Except ShapeError (Tensor γ) :=
  match commonShape? a.shape b.shape with
  | some shape => return ⟨shape, .zipWith f shape (← a.stretch shape) (← b.stretch shape)⟩
  | none => .error .mismatch

theorem zipWith_mk (f : α → β → γ) (shape : List Nat) (u : Grid α shape) (v : Grid β shape) :
    zipWith f ⟨shape, u⟩ ⟨shape, v⟩ = .ok ⟨shape, .zipWith f shape u v⟩ := by
  have hu := stretch_self (⟨shape, u⟩ : Tensor α)
  have hv := stretch_self (⟨shape, v⟩ : Tensor β)
  simp only [zipWith, commonShape?_self] at *
  rw [hu, hv]
  rfl

/-- The array without axes that holds a number. -/
def ofScalar (x : α) : Tensor α := ⟨[], x⟩

variable [Scalar α]

def add (a b : Tensor α) : Except ShapeError (Tensor α) := a.zipWith (· + ·) b

theorem add_ofVector {n : Nat} (u v : Vec α n) :
    (ofVector u).add (ofVector v) = .ok (ofVector (Vec.add u v)) := by
  rw [add, ofVector, ofVector, zipWith_mk]
  congr 2
  exact Vec.ext_entry fun i => by simp [Vec.add, Grid.zipWith, Vec.entry]

def sub (a b : Tensor α) : Except ShapeError (Tensor α) := a.zipWith (· - ·) b

/-- The array multiplied by a number, which stands on the left. -/
def scale (x : α) (a : Tensor α) : Tensor α := a.map (x * ·)

def neg (a : Tensor α) : Tensor α := a.map (- ·)

/-- The entries of `a` moved into the intervals from those of `lower` to those of `upper`. -/
def clamp (a lower upper : Tensor α) : Except ShapeError (Tensor α) := do
  (← a.zipWith Scalar.larger lower).zipWith Scalar.smaller upper

end Tensor

end ProjectedNewton
