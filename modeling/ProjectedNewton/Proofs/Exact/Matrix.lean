import ProjectedNewton.Proofs.Exact.Scalar
import ProjectedNewton.Proofs.Problem.Partition

/-!
# Vectors and matrices of real numbers

A stored vector is read as the function of its entries and a stored matrix as the matrix of its
entries. The lemmas of this file turn the operations of the solver into those of linear algebra, and
sums over all coordinates into sums over the free and the clamped ones.
-/

namespace ProjectedNewton

open Matrix

variable {l m n : ℕ}

/-- The matrix of the entries. -/
def Mat.toMatrix (A : Mat ℝ m n) : Matrix (Fin m) (Fin n) ℝ := Matrix.of fun i j => A i j

namespace Mat

@[simp] theorem toMatrix_apply (A : Mat ℝ m n) (i : Fin m) (j : Fin n) :
    A.toMatrix i j = A i j :=
  rfl

/-- A stored matrix is determined by its entries. -/
theorem ext_toMatrix {A B : Mat ℝ m n} (h : A.toMatrix = B.toMatrix) : A = B :=
  Vec.ext_entry fun i => Vec.ext_entry fun j => congrFun (congrFun h i) j

theorem toMatrix_ofFn (f : Fin m → Fin n → ℝ) : (ofFn f).toMatrix = Matrix.of f := by
  ext i j
  exact entry_ofFn f i j

theorem toMatrix_transpose (A : Mat ℝ m n) : A.transpose.toMatrix = A.toMatrixᵀ := toMatrix_ofFn _

theorem toMatrix_add (A B : Mat ℝ m n) : (A.add B).toMatrix = A.toMatrix + B.toMatrix :=
  toMatrix_ofFn _

theorem toMatrix_neg (A : Mat ℝ m n) : A.neg.toMatrix = -A.toMatrix := toMatrix_ofFn _

theorem toMatrix_scale (a : ℝ) (A : Mat ℝ m n) : (A.scale a).toMatrix = a • A.toMatrix :=
  toMatrix_ofFn _

theorem toMatrix_diagonal (v : Vec ℝ n) : (diagonal v).toMatrix = Matrix.diagonal v.entry := by
  ext i j
  rw [diagonal, toMatrix_ofFn, Matrix.of_apply, Matrix.diagonal_apply]

theorem toMatrix_mul (A : Mat ℝ l m) (B : Mat ℝ m n) :
    (A.mul B).toMatrix = A.toMatrix * B.toMatrix := by
  ext i j
  rw [mul, toMatrix_ofFn, Matrix.of_apply, Exact.sum_eq]
  rfl

end Mat

/-! ## Entries that are integers -/

/-- The vector of these integers. -/
noncomputable def Vec.ofInts (v : Fin n → ℤ) : Vec ℝ n := Vector.ofFn fun i => (v i : ℝ)

/-- The matrix of these integers. -/
noncomputable def Mat.ofInts (A : Fin m → Fin n → ℤ) : Mat ℝ m n := ofFn fun i j => (A i j : ℝ)

theorem Vec.entry_ofInts (v : Fin n → ℤ) (i : Fin n) : ofInts v i = v i := entry_ofFn _ i

theorem Vec.entry_ofInts_pair (a b : ℤ) : (ofInts ![a, b]).entry = ![(a : ℝ), b] := by
  funext i
  rw [entry_ofInts]
  fin_cases i <;> rfl

theorem Mat.toMatrix_ofInts (A : Fin m → Fin n → ℤ) :
    (ofInts A).toMatrix = Matrix.of fun i j => (A i j : ℝ) :=
  toMatrix_ofFn _

/-- A matrix moves from one side of a product of vectors to the other as its transpose. -/
theorem mulVec_dotProduct (A : Matrix (Fin m) (Fin n) ℝ) (u : Fin n → ℝ) (v : Fin m → ℝ) :
    A *ᵥ u ⬝ᵥ v = u ⬝ᵥ Aᵀ *ᵥ v := by
  rw [mulVec_transpose, dotProduct_comm, dotProduct_mulVec, dotProduct_comm]

namespace Exact

/-! ## Products -/

theorem dot_eq (u v : Vec ℝ n) : u.dot v = u.entry ⬝ᵥ v.entry := sum_eq _

theorem mulVec_eq (A : Mat ℝ m n) (v : Vec ℝ n) : (A.mulVec v).entry = A.toMatrix *ᵥ v.entry := by
  funext i
  rw [Mat.entry_mulVec, dot_eq]
  rfl

theorem add_eq (u v : Vec ℝ n) : (u.add v).entry = u.entry + v.entry :=
  funext (Vec.entry_add u v)

theorem sub_eq (u v : Vec ℝ n) : (u.sub v).entry = u.entry - v.entry :=
  funext (Vec.entry_sub u v)

theorem sub_zero_eq (v : Vec ℝ n) : v.sub (Vec.zero n) = v := by
  refine Vec.ext_entry ?_
  intro i
  rw [Vec.entry_sub, Vec.entry_zero, sub_zero]

theorem form_eq (A : Mat ℝ m n) (u : Vec ℝ m) (v : Vec ℝ n) :
    A.form u v = u.entry ⬝ᵥ A.toMatrix *ᵥ v.entry := by
  unfold Mat.form
  rw [sum_eq]
  refine Finset.sum_congr rfl ?_
  intro i _
  rw [sum_eq, mulVec, dotProduct, Finset.mul_sum]
  exact Finset.sum_congr rfl fun j _ => mul_assoc _ _ _

theorem quadraticValue_eq (H : Mat ℝ n n) (q x : Vec ℝ n) :
    quadraticValue H q x
      = 1 / 2 * (x.entry ⬝ᵥ H.toMatrix *ᵥ x.entry) + q.entry ⬝ᵥ x.entry := by
  unfold quadraticValue
  rw [dot_eq, dot_eq, mulVec_eq, half_eq]

/-! ## The largest absolute value -/

theorem le_foldl_larger (f : Fin n → ℝ) (a : ℝ) :
    a ≤ Fin.foldl n (fun acc i => Scalar.larger acc (f i)) a ∧
      ∀ i, f i ≤ Fin.foldl n (fun acc i => Scalar.larger acc (f i)) a := by
  induction n with
  | zero => exact ⟨by simp, fun i => i.elim0⟩
  | succ n ih =>
    obtain ⟨hinit, hentry⟩ := ih fun i => f i.castSucc
    rw [Fin.foldl_succ_last, larger_eq_max]
    refine ⟨hinit.trans (le_max_left _ _), ?_⟩
    intro i
    cases i using Fin.lastCases with
    | last => exact le_max_right _ _
    | cast i => exact (hentry i).trans (le_max_left _ _)

/-- No entry of a vector exceeds its largest absolute value. -/
theorem abs_le_maxAbs (v : Vec ℝ n) (i : Fin n) : |v i| ≤ v.maxAbs :=
  (le_foldl_larger (fun i => |v i|) 0).2 i

theorem foldl_larger_le {f : Fin n → ℝ} {a b : ℝ} (ha : a ≤ b) (hf : ∀ i, f i ≤ b) :
    Fin.foldl n (fun acc i => Scalar.larger acc (f i)) a ≤ b := by
  induction n with
  | zero => simpa using ha
  | succ n ih =>
    rw [Fin.foldl_succ_last, larger_eq_max]
    exact max_le (ih fun i => hf i.castSucc) (hf (Fin.last n))

/-- The largest absolute value does not exceed a bound on all of them. -/
theorem maxAbs_le {v : Vec ℝ n} {b : ℝ} (hb : 0 ≤ b) (hv : ∀ i, |v i| ≤ b) : v.maxAbs ≤ b :=
  foldl_larger_le hb hv

/-- The largest absolute value is the norm of the vector of entries. -/
theorem maxAbs_eq_norm (v : Vec ℝ n) : v.maxAbs = ‖v.entry‖ := by
  refine le_antisymm (maxAbs_le (norm_nonneg _) (norm_le_pi_norm v.entry)) ?_
  refine (pi_norm_le_iff_of_nonneg ?_).mpr (abs_le_maxAbs v)
  exact (le_foldl_larger (fun i => |v i|) 0).1

theorem maxAbs_zero : (Vec.zero n : Vec ℝ n).maxAbs = 0 := by
  rw [maxAbs_eq_norm, norm_eq_zero]
  exact funext Vec.entry_zero

/-! ## Blocks and shifts -/

theorem block_eq (A : Mat ℝ n n) (indices : List (Fin n)) :
    (A.block indices indices).toMatrix = A.toMatrix.submatrix indices.get indices.get := by
  ext i j
  unfold Mat.block
  rw [Mat.toMatrix_apply, Mat.entry_ofFn]
  rfl

theorem pickRows_eq (A : Mat ℝ m n) (rows : List (Fin m)) :
    (A.pickRows rows).toMatrix = A.toMatrix.submatrix rows.get id := by
  ext i j
  unfold Mat.pickRows
  rw [Mat.toMatrix_apply, Vec.entry_ofFn]
  rfl

theorem shift_apply (A : Mat ℝ n n) (a : ℝ) (i j : Fin n) :
    A.shift a i j = A i j + if i = j then a else 0 := by
  unfold Mat.shift
  split
  · next h =>
    rw [eq_iff.mp h]
    simp
  · unfold Mat.add Mat.identity Mat.scale
    simp only [Mat.entry_ofFn]
    split
    · rw [mul_one]
    · rw [mul_zero]

/-! ## Sums over free and clamped coordinates -/

theorem sum_get {indices : List (Fin n)} (h : indices.Nodup) (f : Fin n → ℝ) :
    ∑ k, f (indices.get k) = ∑ i ∈ indices.toFinset, f i := by
  rw [List.sum_toFinset f h]
  exact Fin.sum_univ_fun_getElem indices f

/-- A block times the chosen entries of a vector is a sum over the chosen columns. -/
theorem block_mulVec (A : Mat ℝ n n) (rows : List (Fin n)) {columns : List (Fin n)}
    (h : columns.Nodup) (x : Vec ℝ n) (k : Fin rows.length) :
    ((A.block rows columns).toMatrix *ᵥ (x.pick columns).entry) k
      = ∑ j ∈ columns.toFinset, A (rows.get k) j * x j := by
  rw [← sum_get h fun j => A (rows.get k) j * x j]
  show ∑ l, A.block rows columns k l * x.pick columns l = _
  refine Finset.sum_congr rfl ?_
  intro l _
  unfold Mat.block
  rw [Mat.entry_ofFn, Vec.entry_pick]

end Exact

/-- A sum over all coordinates is a sum over the free and one over the clamped ones. -/
theorem Partition.IsSplit.sum_eq {part : Partition n} (h : part.IsSplit) (f : Fin n → ℝ) :
    ∑ i, f i = ∑ i ∈ part.free.toFinset, f i + ∑ i ∈ part.clamped.toFinset, f i := by
  have hdisjoint : Disjoint part.free.toFinset part.clamped.toFinset := by
    rw [Finset.disjoint_left]
    intro i hfree hclamped
    exact h.disjoint i (List.mem_toFinset.mp hfree) (List.mem_toFinset.mp hclamped)
  have hunion : Finset.univ = part.free.toFinset ∪ part.clamped.toFinset := by
    ext i
    simpa using h.exhaustive i
  rw [hunion, Finset.sum_union hdisjoint]

end ProjectedNewton
