import ProjectedNewton.Matrix

/-!
# Grids

A shape lists the lengths of an array along its axes. `Grid α shape` holds entries in that shape: a
grid of shape `[n]` is a vector and one of shape `[m, n]` a matrix, by definition. A grid stands for
the function from its positions to its entries (`Grid.entry`), and `Grid.ofFn` makes the grid of
such a function.
-/

namespace ProjectedNewton

/-- Entries in a given shape. -/
@[reducible] def Grid (α : Type) : List Nat → Type
  | [] => α
  | n :: shape => Vector (Grid α shape) n

/-- A place in a grid: an index along every axis. -/
@[reducible] def Position : List Nat → Type
  | [] => Unit
  | n :: shape => Fin n × Position shape

namespace Grid

variable {α β γ : Type}

/-! ## Entries -/

/-- The entry at a position. -/
def entry : (shape : List Nat) → Grid α shape → Position shape → α
  | [], x, _ => x
  | _ :: shape, v, (i, p) => entry shape (Vec.entry v i) p

/-- The grid with the given entries. -/
def ofFn : (shape : List Nat) → (Position shape → α) → Grid α shape
  | [], f => f ()
  | _ :: shape, f => Vector.ofFn fun i => ofFn shape fun p => f (i, p)

@[simp] theorem entry_ofFn (shape : List Nat) (f : Position shape → α) (p : Position shape) :
    entry shape (ofFn shape f) p = f p := by
  induction shape with
  | nil => rfl
  | cons n shape ih => simp [entry, ofFn, ih]

@[simp] theorem ofFn_entry (shape : List Nat) (g : Grid α shape) :
    ofFn shape (entry shape g) = g := by
  induction shape with
  | nil => rfl
  | cons n shape ih => exact Vec.ext_entry fun i => by simp [entry, ofFn, ih]

/-- All entries, with the index along the last axis running fastest. -/
def toList : (shape : List Nat) → Grid α shape → List α
  | [], x => [x]
  | _ :: shape, v => (Vector.toList v).flatMap (toList shape)

/-! ## Maps -/

/-- The grid with a function applied to every entry. -/
def map (f : α → β) : (shape : List Nat) → Grid α shape → Grid β shape
  | [], x => f x
  | _ :: shape, v => Vector.map (map f shape) v

@[simp] theorem entry_map (f : α → β) (shape : List Nat) (g : Grid α shape) (p : Position shape) :
    entry shape (map f shape g) p = f (entry shape g p) := by
  induction shape with
  | nil => rfl
  | cons n shape ih => simp [entry, map, Vec.entry, ih]

/-- The grid of the values of a function at the entries of two grids. -/
def zipWith (f : α → β → γ) : (shape : List Nat) → Grid α shape → Grid β shape → Grid γ shape
  | [], x, y => f x y
  | _ :: shape, u, v => Vector.zipWith (zipWith f shape) u v

/-! ## Grids of grids -/

/-- The grid of the values of a function at any entry of the first and any of the second grid. -/
def outer (f : α → β → γ) : (s t : List Nat) → Grid α s → Grid β t → Grid γ (s ++ t)
  | [], t, x, v => map (f x) t v
  | _ :: s, t, u, v => Vector.map (fun row => outer f s t row v) u

/-- The grid that has `f j` at index `j` of a new last axis. -/
def stack : (shape : List Nat) → (n : Nat) → (Fin n → Grid α shape) → Grid α (shape ++ [n])
  | [], _, f => Vector.ofFn f
  | _ :: shape, n, f => Vector.ofFn fun i => stack shape n fun j => Vec.entry (f j) i

end Grid

end ProjectedNewton
