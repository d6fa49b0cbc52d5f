import ProjectedNewton.Proofs.Exact.Definite
import ProjectedNewton.Proofs.Exact.Objective
import ProjectedNewton.Proofs.Run.Iterates
import ProjectedNewton.Proofs.Solver.Outcome

/-!
# When a solve fails

A solve fails in a factorization or not at all. The matrix that is factorized is the Hessian in the
coordinates that are free at the current iterate, after regularization. Of a regularized Hessian
that is positive definite all these parts are positive definite, so that no run can fail on it,
whatever coordinates become free. A failed solve, on the other hand, has found a principal submatrix
that is not positive definite.

* `Problem.exists_factorizeAt?_iff` says at which points a factorization can be made.
* `Problem.principal` is a principal submatrix after regularization; the matrix that is factorized
  is one, with the free coordinates in their order (`Problem.freeSystem_eq_principal`).
* `Solver.returns_of_posDef_and_breakdown_of_breaks` is the main result.
-/

namespace ProjectedNewton

open Matrix

variable {n : ℕ}

namespace Problem

variable {p : Problem ℝ n} {s : Settings ℝ} {x : Vec ℝ n} {part : Partition n} {r : ℝ}

/-! ## Factorizations and definiteness -/

theorem exists_factorizeAt?_of_posDef (h : (p.freeSystem (p.split x) s.regularization).PosDef) :
    ∃ F, p.factorizeAt? s x = some F := by
  unfold freeSystem at h
  rw [← toMatrix_shift] at h
  exact Factorization.exists_of?_of_posDef h

/-- **A factorization can be made where the regularized Hessian of the free coordinates is positive
definite.** -/
theorem exists_factorizeAt?_iff (hH : p.hessianMatrix.IsSymm) :
    (∃ F, p.factorizeAt? s x = some F) ↔
      (p.freeSystem (p.split x) s.regularization).PosDef := by
  unfold freeSystem
  rw [← toMatrix_shift]
  exact Factorization.exists_of?_iff (isSymm_freeHessian hH _)

/-! ## Principal submatrices -/

/-- The Hessian in some of the coordinates, after regularization. -/
def principal (p : Problem ℝ n) (r : ℝ) (indices : Finset (Fin n)) : Matrix indices indices ℝ :=
  p.hessianMatrix.submatrix Subtype.val Subtype.val + r • (1 : Matrix indices indices ℝ)

/-- **Of a positive definite matrix, every principal submatrix is positive definite.** -/
theorem posDef_principal (hH : (p.hessianMatrix + r • 1).PosDef) (indices : Finset (Fin n)) :
    (p.principal r indices).PosDef := by
  have hpart : p.principal r indices
      = (p.hessianMatrix + r • 1).submatrix Subtype.val Subtype.val := by
    unfold principal
    rw [← submatrix_one _ (Subtype.val_injective (p := (· ∈ indices)))]
    rfl
  rw [hpart]
  exact hH.submatrix Subtype.val_injective

/-- The place of a free coordinate among the free coordinates. -/
def freeIndex (part : Partition n) (k : Fin part.free.length) : part.free.toFinset :=
  ⟨part.free.get k, List.mem_toFinset.mpr (List.get_mem part.free k)⟩

theorem freeIndex_injective (h : part.free.Nodup) : Function.Injective (freeIndex part) :=
  fun _ _ hkl => h.injective_get (congrArg Subtype.val hkl)

theorem freeSystem_eq_principal (h : part.free.Nodup) : p.freeSystem part r
      = (p.principal r part.free.toFinset).submatrix (freeIndex part) (freeIndex part) := by
  unfold freeSystem freeHessian principal
  rw [Exact.block_eq, ← submatrix_one _ (freeIndex_injective h)]
  rfl

theorem posDef_freeSystem (hprincipal : (p.principal r part.free.toFinset).PosDef)
    (h : part.free.Nodup) : (p.freeSystem part r).PosDef := by
  rw [freeSystem_eq_principal h]
  exact hprincipal.submatrix (freeIndex_injective h)

theorem posDef_shift (hH : p.hessianMatrix.PosDef) (hr : 0 ≤ r) :
    (p.hessianMatrix + r • 1).PosDef :=
  hH.add_posSemidef (PosSemidef.one.smul hr)

/-- **On a positive definite matrix a factorization can be made at every point.** -/
theorem exists_factorizeAt?_of_posDef_shift
    (hH : (p.hessianMatrix + s.regularization • 1).PosDef) (x : Vec ℝ n) :
    ∃ F, p.factorizeAt? s x = some F :=
  exists_factorizeAt?_of_posDef
    (posDef_freeSystem (posDef_principal hH _) (p.isSplit_split x).nodup_free)

/-- Without a factorization, the Hessian is not positive definite in the free coordinates. -/
theorem not_posDef_of_singular (hF : p.factorizeAt? s x = none) :
    ¬(p.freeSystem (p.split x) s.regularization).PosDef ∧
      ¬(p.principal s.regularization (p.split x).free.toFinset).PosDef := by
  have hsystem : ¬(p.freeSystem (p.split x) s.regularization).PosDef := by
    intro h
    obtain ⟨F, hF'⟩ := exists_factorizeAt?_of_posDef h
    rw [hF] at hF'
    cases hF'
  exact ⟨hsystem, fun h => hsystem (posDef_freeSystem h (p.isSplit_split x).nodup_free)⟩

/-! ## Failed solves -/

/-- What an error `e` says about the run from `start` that has ended with it. -/
structure Breakdown (p : Problem ℝ n) (s : Settings ℝ) (start : Vec ℝ n)
    (e : NotPositiveDefinite ℝ) : Prop where
  regularization : e.regularization = s.regularization
  size_pos : 1 ≤ e.size
  /-- The run has reached a point with that many free coordinates, in which the Hessian is not
  positive definite. -/
  reached : ∃ k < s.maxIterations, ∃ x, p.Reaches s start k x ∧
    ((p.split x).free.length : ℤ) = e.size ∧
    ¬(p.freeSystem (p.split x) s.regularization).PosDef
  /-- Some principal submatrix of that size is not positive definite. -/
  principal : ∃ indices : Finset (Fin n), (indices.card : ℤ) = e.size ∧
    ¬(p.principal s.regularization indices).PosDef

/-- **A run on a positive definite matrix does not fail.** -/
theorem exists_solution_of_posDef (hH : (p.hessianMatrix + s.regularization • 1).PosDef)
    (start : Vec ℝ n) :
    ∃ sol, ((Workspace.fresh n).solve s p start).2.outcome = .ok sol := by
  cases h : ((Workspace.fresh n).solve s p start).2.outcome with
  | ok sol => exact ⟨sol, rfl⟩
  | error e =>
    obtain ⟨k, -, x, -, hF⟩ := exists_reaches_of_error h
    obtain ⟨F, hF'⟩ := exists_factorizeAt?_of_posDef_shift hH x
    cases hF'.symm.trans (factorizeAt?_eq_none hF)

/-- **A run that fails has found a matrix that is not positive definite.** -/
theorem breakdown_of_error {start : Vec ℝ n} {e : FactorizationError ℝ}
    (h : ((Workspace.fresh n).solve s p start).2.outcome = .error e) :
    ∃ b, e = .notPositiveDefinite b ∧ p.Breakdown s start b := by
  obtain ⟨k, hk, x, hx, hF⟩ := exists_reaches_of_error h
  have hnone : p.factorizeAt? s x = none := factorizeAt?_eq_none hF
  obtain ⟨hsystem, hprincipal⟩ := not_posDef_of_singular hnone
  have hcard : (p.split x).free.toFinset.card = (p.split x).free.length :=
    List.toFinset_card_of_nodup (p.isSplit_split x).nodup_free
  refine ⟨⟨(p.split x).free.length, s.regularization⟩, Factorization.error_eq hF, rfl, ?_,
    ⟨k, hk, x, hx, rfl, hsystem⟩, ⟨_, ?_, hprincipal⟩⟩
  · exact Nat.one_le_cast.mpr (List.length_pos_iff.mpr (free_ne_nil_of_singular hnone))
  · rw [hcard]

end Problem

/-- **A solve does not fail if the regularized Hessian is positive definite**, and if it fails,
then because the Hessian is not positive definite in the free coordinates of a point that the run
has reached. Nothing is asked of the bounds, the start or the settings. -/
theorem Solver.returns_of_posDef_and_breakdown_of_breaks (solver : Solver ℝ)
    (p : Problem ℝ solver.dimension) (start : Vec ℝ solver.dimension) :
    ((p.hessianMatrix + solver.settings.regularization • 1).PosDef →
      ∃ sol, solver.Returns p start sol) ∧
    ∀ e, solver.Breaks p start e →
      ∃ b, e = .notPositiveDefinite b ∧ p.Breakdown solver.settings start b := by
  constructor
  · intro hH
    obtain ⟨sol, hsol⟩ := Problem.exists_solution_of_posDef hH start
    exact ⟨sol, returns_iff.mpr hsol⟩
  · intro e h
    exact Problem.breakdown_of_error (breaks_iff.mp h)

/-! ## A flat direction -/

/-- The sum of the coordinates, on the box from zero to one. -/
noncomputable def Problem.ramp (n : ℕ) : Problem ℝ n where
  hessian := Mat.zero n n
  linear := Vector.ofFn fun _ => 1
  lower := Vec.zero n
  upper := Vector.ofFn fun _ => 1

/-- One iteration, without tolerance and regularization. -/
noncomputable def Settings.exact : Settings ℝ where
  maxIterations := 1
  acceptStepThreshold := Scalar.half
  gradThreshold := 0
  regularization := 0

namespace Problem

theorem hessianMatrix_ramp : (ramp n).hessianMatrix = 0 := by
  ext i j
  exact Mat.entry_ofFn _ i j

theorem posSemidef_ramp : (ramp n).hessianMatrix.PosSemidef := by
  rw [hessianMatrix_ramp]
  exact PosSemidef.zero

theorem lower_ramp (i : Fin n) : (ramp n).lower i = 0 := Vec.entry_zero i

theorem upper_ramp (i : Fin n) : (ramp n).upper i = 1 := Vec.entry_ofFn _ i

end Problem

/-- Between its bounds, a coordinate of the ramp is free. -/
theorem Problem.mem_free_ramp {x : Vec ℝ n} {i : Fin n} (hlower : 0 < x i) (hupper : x i < 1) :
    i ∈ ((ramp n).split x).free := by
  rw [mem_free_iff, Bool.eq_false_iff]
  intro hclamped
  rcases isClamped_iff.mp hclamped with ⟨hx, -⟩ | ⟨hx, -⟩
  · rw [lower_ramp] at hx
    exact hlower.ne' hx
  · rw [upper_ramp] at hx
    exact hupper.ne hx

/-- Without regularization the ramp has no Newton step from a free coordinate. -/
theorem Problem.factorizeAt?_ramp {x : Vec ℝ n} {i : Fin n} (hi : i ∈ ((ramp n).split x).free) :
    (ramp n).factorizeAt? Settings.exact x = none := by
  obtain ⟨k, -⟩ := List.get_of_mem hi
  have hzero : (ramp n).freeSystem ((ramp n).split x) Settings.exact.regularization = 0 := by
    rw [freeSystem_eq_principal (isSplit_split _ x).nodup_free]
    unfold principal Settings.exact
    rw [hessianMatrix_ramp, zero_smul, add_zero]
    rfl
  cases hF : (ramp n).factorizeAt? Settings.exact x with
  | none => rfl
  | some F =>
    have hposDef := (exists_factorizeAt?_iff posSemidef_ramp.isHermitian).mp ⟨F, hF⟩
    rw [hzero] at hposDef
    exact absurd (hposDef.diag_pos (i := k)) (lt_irrefl 0)

theorem Solver.breakdown_ramp :
    (∃ sol, Solver.Returns ⟨1, { Settings.exact with regularization := 1 }, .fresh 1 none⟩
      (Problem.ramp 1) (Vector.replicate 1 (1 / 2)) sol) ∧
    ∃ b, Solver.Breaks ⟨1, Settings.exact, .fresh 1 none⟩ (Problem.ramp 1)
      (Vector.replicate 1 (1 / 2)) (.notPositiveDefinite b) ∧
      (Problem.ramp 1).Breakdown Settings.exact (Vector.replicate 1 (1 / 2)) b := by
  constructor
  · refine (Solver.returns_of_posDef_and_breakdown_of_breaks
      ⟨1, { Settings.exact with regularization := 1 }, .fresh 1 none⟩ (Problem.ramp 1) _).1 ?_
    rw [Problem.hessianMatrix_ramp, zero_add, one_smul]
    exact PosDef.one
  · have hstart : (Problem.ramp 1).project (Vector.replicate 1 (1 / 2)) 0 = 1 / 2 := by
      rw [Problem.entry_project, Exact.clamp_eq, Problem.lower_ramp, Problem.upper_ramp]
      show min (max (1 / 2) 0) 1 = (1 / 2 : ℝ)
      norm_num
    have hfree := Problem.mem_free_ramp (lt_of_lt_of_eq one_half_pos hstart.symm)
      (lt_of_eq_of_lt hstart one_half_lt_one)
    obtain ⟨e, he⟩ := Problem.exists_factorizeAt_eq_error (Problem.factorizeAt?_ramp hfree)
    have hbreaks : Solver.Breaks ⟨1, Settings.exact, .fresh 1 none⟩ (Problem.ramp 1) _ e :=
      Solver.breaks_of_singular one_ne_zero he
    obtain ⟨b, rfl, hbreakdown⟩ :=
      (Solver.returns_of_posDef_and_breakdown_of_breaks _ _ _).2 _ hbreaks
    exact ⟨b, hbreaks, hbreakdown⟩

end ProjectedNewton
