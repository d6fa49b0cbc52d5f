import ProjectedNewton.Control.Experiment
import ProjectedNewton.Proofs.Solver.Outcome

/-!
# Arrays that fit together

The arrays that fit together are those of a plant and a trajectory, and there is only one plant and
one trajectory for them. On such arrays, products and sums are those of vectors and matrices, so
that the model of a knot over arrays is the one that the plant makes.

* `PlantArrays.plant?_eq_some_iff`, `Parameters.sizedPlant?_eq_some_iff` and
  `Experiment.trajectory?_eq_some_iff` say which arrays fit.
* `PlantArrays.expand_ofPlant` is the model of a knot.
-/

namespace ProjectedNewton

variable {α : Type} {n m T : Nat}

/-! ## Columns -/

namespace Mat

@[simp] theorem entry_transpose (A : Mat α m n) (j : Fin n) (i : Fin m) :
    A.transpose j i = A i j :=
  entry_ofFn _ j i

@[simp] theorem transpose_transpose (A : Mat α m n) : A.transpose.transpose = A :=
  Vec.ext_entry fun i => Vec.ext_entry fun j => by rw [entry_transpose, entry_transpose]

@[simp] theorem entry_column (A : Mat α m n) (j : Fin n) (i : Fin m) : A.column j i = A i j :=
  Vec.entry_ofFn _ i

theorem column_transpose (A : Mat α m n) (i : Fin m) : A.transpose.column i = A i :=
  Vec.ext_entry fun j => by rw [entry_column, entry_transpose]

/-- A matrix with two columns is made of them. -/
theorem transpose_columns (A : Mat α m 2) : transpose #v[A.column 0, A.column 1] = A := by
  refine Vec.ext_entry fun i => Vec.ext_entry fun j => ?_
  rw [entry_transpose]
  match j with
  | 0 => exact entry_column A 0 i
  | 1 => exact entry_column A 1 i

end Mat

namespace Tensor

theorem column_ofMatrix (A : Mat α m n) (j : Fin n) :
    (ofMatrix A).column j = .ok (ofVector (A.column j)) := by
  unfold column ofMatrix
  dsimp only
  rw [dif_pos j.isLt]
  refine congrArg (fun v : Vec α m => Except.ok (ofVector v)) (Vec.ext_entry fun i => ?_)
  rw [Mat.entry_column]
  exact Vector.getElem_map _ i.isLt

/-- The columns of an array of vectors over time. -/
theorem column_transpose (v : Vector (Vec α m) n) (i : Fin n) :
    (ofMatrix (Mat.transpose v)).column i = .ok (ofVector (Vec.entry v i)) := by
  rw [column_ofMatrix, Mat.column_transpose]

variable [Scalar α]

theorem add_ofMatrix (A B : Mat α m n) :
    (ofMatrix A).add (ofMatrix B) = .ok (ofMatrix (A.add B)) := by
  rw [add, ofMatrix, ofMatrix, zipWith_mk]
  refine congrArg (fun C : Mat α m n => Except.ok (ofMatrix C)) ?_
  exact Vec.ext_entry fun i => Vec.ext_entry fun j => by
    simp [Mat.add, Grid.zipWith, Vec.entry, Mat.ofFn]

theorem sub_ofVector (u v : Vec α n) :
    (ofVector u).sub (ofVector v) = .ok (ofVector (u.sub v)) := by
  rw [sub, ofVector, ofVector, zipWith_mk]
  refine congrArg (fun w : Vec α n => Except.ok (ofVector w)) ?_
  exact Vec.ext_entry fun i => by simp [Vec.sub, Grid.zipWith, Vec.entry]

end Tensor

/-! ## Plants and trajectories -/

namespace PlantArrays

variable {p : PlantArrays α} {plant : Plant α n m}

/-- **The arrays that fit together are those of a plant.** -/
theorem plant?_eq_some_iff : p.plant? n m = some plant ↔ p = .ofPlant plant := by
  obtain ⟨limits, stateCost, controlCost, stateMap, controlMap⟩ := p
  unfold plant? ofPlant
  simp only [bind, Option.bind_eq_some_iff]
  constructor
  · rintro ⟨L, hL, A, hA, B, hB, Q, hQ, R, hR, h⟩
    cases h
    rw [Tensor.inShape?_eq_some_iff.mp hL, Tensor.inShape?_eq_some_iff.mp hA,
      Tensor.inShape?_eq_some_iff.mp hB, Tensor.inShape?_eq_some_iff.mp hQ,
      Tensor.inShape?_eq_some_iff.mp hR]
    dsimp only
    rw [Mat.transpose_columns]
    rfl
  · intro h
    cases h
    refine ⟨_, Tensor.inShape?_eq_some_iff.mpr rfl, _, Tensor.inShape?_eq_some_iff.mpr rfl,
      _, Tensor.inShape?_eq_some_iff.mpr rfl, _, Tensor.inShape?_eq_some_iff.mpr rfl,
      _, Tensor.inShape?_eq_some_iff.mpr rfl, ?_⟩
    rw [Mat.column_transpose, Mat.column_transpose]
    rfl

end PlantArrays

namespace Experiment

variable {e : Experiment}

/-- **The arrays of states and controls that fit are those of a trajectory.** -/
theorem trajectory?_eq_some_iff {reference : Trajectory Float n m T} :
    e.trajectory? n m T = some reference ↔
      e.states = some (.ofMatrix (Mat.transpose reference.states)) ∧
      e.controls = .ofMatrix (Mat.transpose reference.controls) := by
  unfold trajectory? controls?
  simp only [bind, Option.bind_eq_some_iff]
  constructor
  · rintro ⟨t, ht, X, hX, _, ⟨U, hU, hcontrols⟩, h⟩
    cases hcontrols
    cases h
    rw [ht, Tensor.inShape?_eq_some_iff.mp hX, Tensor.inShape?_eq_some_iff.mp hU]
    dsimp only
    rw [Mat.transpose_transpose, Mat.transpose_transpose]
    exact ⟨rfl, rfl⟩
  · rintro ⟨hstates, hcontrols⟩
    rw [hstates, hcontrols]
    refine ⟨_, rfl, _, Tensor.inShape?_eq_some_iff.mpr rfl, _,
      ⟨_, Tensor.inShape?_eq_some_iff.mpr rfl, rfl⟩, ?_⟩
    rw [Mat.transpose_transpose, Mat.transpose_transpose]
    rfl

end Experiment

/-- **The parameters that fit together are those of a plant with its sizes.** -/
theorem Parameters.sizedPlant?_eq_some_iff {p : Parameters} {size : SizedPlant} :
    p.sizedPlant? = some size ↔
      p.stateSize = size.stateSize ∧ p.controlSize = size.controlSize ∧
      p.horizon = size.horizon ∧ p.arrays = .ofPlant size.plant := by
  obtain ⟨timeStep, horizon, stateSize, controlSize, arrays, solver⟩ := p
  unfold sizedPlant?
  simp only [bind, Option.bind_eq_some_iff]
  constructor
  · rintro ⟨n, hn, m, hm, T, hT, plant, hplant, h⟩
    cases h
    exact ⟨Int.mem_toNat?.mp hn, Int.mem_toNat?.mp hm, Int.mem_toNat?.mp hT,
      PlantArrays.plant?_eq_some_iff.mp hplant⟩
  · rintro ⟨hn, hm, hT, harrays⟩
    exact ⟨size.stateSize, Int.mem_toNat?.mpr hn, size.controlSize, Int.mem_toNat?.mpr hm,
      size.horizon, Int.mem_toNat?.mpr hT, size.plant,
      PlantArrays.plant?_eq_some_iff.mpr harrays, rfl⟩

/-! ## The model of a knot -/

/-- The arrays of a model. -/
def ValueArrays.ofModel (V : ValueModel α n) : ValueArrays α where
  gradient := .ofVector V.gradient
  hessian := .ofMatrix V.hessian

/-- The arrays of a model, with the limits of a correction. -/
def KnotArrays.ofModel (model : KnotModel α n m) (lower upper : Vec α m) : KnotArrays α where
  stateGradient := .ofVector model.stateGradient
  controlGradient := .ofVector model.controlGradient
  stateHessian := .ofMatrix model.stateHessian
  controlHessian := .ofMatrix model.controlHessian
  mixed := .ofMatrix model.mixed
  lower := .ofVector lower
  upper := .ofVector upper

variable [Scalar α]

/-- **On the arrays of a plant, the model of a knot is that of the plant.** -/
theorem PlantArrays.expand_ofPlant (plant : Plant α n m) (V : ValueModel α n) (x : Vec α n)
    (u : Vec α m) : (ofPlant plant).expand (.ofModel V) (.ok (.ofVector x)) (.ok (.ofVector u))
      = .ok (.ofModel (plant.expand V x u) (plant.lower.sub u) (plant.upper.sub u)) := by
  have hlower : (Tensor.ofMatrix (Mat.transpose #v[plant.lower, plant.upper])).column 0
      = .ok (.ofVector plant.lower) := Tensor.column_transpose _ 0
  have hupper : (Tensor.ofMatrix (Mat.transpose #v[plant.lower, plant.upper])).column 1
      = .ok (.ofVector plant.upper) := Tensor.column_transpose _ 1
  unfold expand ofPlant
  simp only [ValueArrays.ofModel, Tensor.transpose_ofMatrix, Tensor.ofMatrix_dot_ofVector,
    Tensor.ofMatrix_dot_ofMatrix, Tensor.add_ofVector, Tensor.add_ofMatrix, Tensor.sub_ofVector,
    hlower, hupper, bind, Except.bind]
  rfl

end ProjectedNewton
