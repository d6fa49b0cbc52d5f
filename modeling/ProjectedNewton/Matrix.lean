import ProjectedNewton.Scalar

/-!
# Vectors and matrices

A vector of length `n` and an `m` by `n` matrix are stored entry by entry, a matrix as the vector of
its rows. A vector stands for the function from its indices to its entries, so that `v i` and `A i
j` are entries. All operations are given by their entries; sums run in the order of the index.

`Mat.leading`, `Mat.lastRow` and `Mat.corner` take a square matrix of size `n + 1` apart into its
leading block of size `n`, the rest of its last row and its last diagonal entry, and `Mat.border`
puts a lower triangular matrix together from such parts. Triangular algorithms recurse along them.
-/

namespace ProjectedNewton

open Scalar

/-- A vector of length `n`. -/
abbrev Vec (α : Type) (n : Nat) := Vector α n

/-- A matrix with `m` rows of length `n`. -/
abbrev Mat (α : Type) (m n : Nat) := Vector (Vec α n) m

/-- The entry of a vector at an index. -/
def Vec.entry {α : Type} {n : Nat} (v : Vec α n) (i : Fin n) : α := getElem v i.val i.isLt

instance {α : Type} {n : Nat} : CoeFun (Vec α n) fun _ => Fin n → α := ⟨Vec.entry⟩

/-- A square matrix together with its size, for places where the size is known only at run time. -/
structure Square (α : Type) where
  size : Nat
  entries : Mat α size size

variable {α : Type} {l m n : Nat}

namespace Vec

@[simp] theorem entry_ofFn (f : Fin n → α) (i : Fin n) : (Vector.ofFn f : Vec α n) i = f i :=
  Vector.getElem_ofFn i.isLt

/-- Two vectors with the same entries are equal. -/
theorem ext_entry {u v : Vec α n} (h : ∀ i : Fin n, u i = v i) : u = v :=
  Vector.ext fun i hi => h ⟨i, hi⟩

@[simp] theorem entry_push_castSucc (v : Vec α n) (a : α) (i : Fin n) :
    (v.push a : Vec α (n + 1)) i.castSucc = v i :=
  Vector.getElem_push_lt i.isLt

@[simp] theorem entry_push_last (v : Vec α n) (a : α) :
    (v.push a : Vec α (n + 1)) (Fin.last n) = a :=
  Vector.getElem_push_last

end Vec

/-- The matrix without entries. -/
def Square.empty : Square α := ⟨0, #v[]⟩

/-! ## Choosing entries -/

/-- The entries of `v` at the positions listed in `indices`, in that order. -/
def Vec.pick (v : Vec α n) (indices : List (Fin n)) : Vec α indices.length :=
  Vector.ofFn fun i => v (indices.get i)

@[simp] theorem Vec.entry_pick (v : Vec α n) (indices : List (Fin n)) (k : Fin indices.length) :
    v.pick indices k = v (indices.get k) :=
  entry_ofFn _ k

namespace Mat

def ofFn (f : Fin m → Fin n → α) : Mat α m n := Vector.ofFn fun i => Vector.ofFn (f i)

@[simp] theorem entry_ofFn (f : Fin m → Fin n → α) (i : Fin m) (j : Fin n) :
    (ofFn f : Mat α m n) i j = f i j := by
  simp [ofFn]

def transpose (A : Mat α m n) : Mat α n m := ofFn fun i j => A j i

def column (A : Mat α m n) (j : Fin n) : Vec α m := Vector.ofFn fun i => A i j

/-- The block of `A` in the listed rows and columns. -/
def block (A : Mat α m n) (rows : List (Fin m)) (columns : List (Fin n)) :
    Mat α rows.length columns.length :=
  ofFn fun i j => A (rows.get i) (columns.get j)

/-- The listed rows of `A`. -/
def pickRows (A : Mat α m n) (rows : List (Fin m)) : Mat α rows.length n :=
  Vector.ofFn fun i => A (rows.get i)

/-- The matrix without its last row and column. -/
def leading (A : Mat α (n + 1) (n + 1)) : Mat α n n :=
  ofFn fun i j => A i.castSucc j.castSucc

/-- The last row up to the diagonal. -/
def lastRow (A : Mat α (n + 1) (n + 1)) : Vec α n :=
  Vector.ofFn fun j => A (Fin.last n) j.castSucc

/-- The last diagonal entry. -/
def corner (A : Mat α (n + 1) (n + 1)) : α := A (Fin.last n) (Fin.last n)

end Mat

variable [Scalar α]

/-! ## Vectors -/

namespace Vec

/-- The vector of zeros. -/
def zero (n : Nat) : Vec α n := Vector.replicate n 0

@[simp] theorem entry_zero (i : Fin n) : (zero n : Vec α n) i = 0 := Vector.getElem_replicate i.isLt

def add (u v : Vec α n) : Vec α n := Vector.ofFn fun i => u i + v i

def sub (u v : Vec α n) : Vec α n := Vector.ofFn fun i => u i - v i

def neg (v : Vec α n) : Vec α n := Vector.ofFn fun i => -v i

/-- Every entry of `v` multiplied by `a`, the factor standing on the right. -/
def scale (v : Vec α n) (a : α) : Vec α n := Vector.ofFn fun i => v i * a

def dot (u v : Vec α n) : α := sum fun i : Fin n => u i * v i

/-- The largest absolute value of an entry: zero for the empty vector, NaN if an entry is NaN. -/
def maxAbs (v : Vec α n) : α := Fin.foldl n (fun acc i => larger acc (abs (v i))) 0

/-- The vector with the entries of `v` at the positions listed in `indices`, and zeros elsewhere. -/
def spread (indices : List (Fin n)) (v : Vec α indices.length) : Vec α n :=
  Vector.ofFn fun i => match indices.finIdxOf? i with
    | some k => v k
    | none => 0

section Entries

variable (u v : Vec α n) (i : Fin n)

@[simp] theorem entry_add : u.add v i = u i + v i := entry_ofFn _ i

@[simp] theorem entry_sub : u.sub v i = u i - v i := entry_ofFn _ i

@[simp] theorem entry_neg : v.neg i = -v i := entry_ofFn _ i

@[simp] theorem entry_scale (a : α) : v.scale a i = v i * a := entry_ofFn _ i

end Entries

end Vec

/-! ## Matrices -/

namespace Mat

def zero (m n : Nat) : Mat α m n := ofFn fun _ _ => 0

def identity (n : Nat) : Mat α n n := ofFn fun i j => if i = j then 1 else 0

/-- The square matrix with the entries of `v` on its diagonal. -/
def diagonal (v : Vec α n) : Mat α n n := ofFn fun i j => if i = j then v i else 0

def add (A B : Mat α m n) : Mat α m n := ofFn fun i j => A i j + B i j

def neg (A : Mat α m n) : Mat α m n := ofFn fun i j => -A i j

/-- Every entry of `A` multiplied by `a`, the factor standing on the left. -/
def scale (a : α) (A : Mat α m n) : Mat α m n := ofFn fun i j => a * A i j

def mulVec (A : Mat α m n) (v : Vec α n) : Vec α m := Vector.ofFn fun i => Vec.dot (A i) v

@[simp] theorem entry_mulVec (A : Mat α m n) (v : Vec α n) (i : Fin m) :
    A.mulVec v i = Vec.dot (A i) v :=
  Vec.entry_ofFn _ i

def mul (A : Mat α l m) (B : Mat α m n) : Mat α l n :=
  ofFn fun i j => sum fun k : Fin m => A i k * B k j

/-- The number `uᵀ A v`. -/
def form (A : Mat α m n) (u : Vec α m) (v : Vec α n) : α :=
  sum fun i : Fin m => sum fun j : Fin n => u i * A i j * v j

/-- The matrix with the rows of `A` at the positions listed in `rows`, and zero rows elsewhere. -/
def spreadRows (rows : List (Fin m)) (A : Mat α rows.length n) : Mat α m n :=
  Vector.ofFn fun i => match rows.finIdxOf? i with
    | some k => A k
    | none => Vec.zero n

/-- The matrix with leading block `A`, last row `row` then `corner`, and zeros above the corner. -/
def border (A : Mat α n n) (row : Vec α n) (corner : α) : Mat α (n + 1) (n + 1) :=
  (A.map (·.push 0)).push (row.push corner)

end Mat

end ProjectedNewton
