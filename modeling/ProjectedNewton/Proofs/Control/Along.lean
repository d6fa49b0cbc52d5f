import ProjectedNewton.Control.Backward
import ProjectedNewton.Proofs.Run.Budget

/-!
# Models along a reference

A backward pass keeps the model of the knot behind, and overwrites it at every knot. What the model
was at some knot can still be told from the policy that is found: it depends on the reference and on
what the policy does from that knot on.

* `Plant.valueAlong` and `Plant.modelAlong` are the models along a reference under a policy,
  `Plant.problemAlong` is the problem at a knot and `Plant.solveAlong` the outcome of its solve.
* `Plant.predicted` is the objective of the correction at a knot, `Plant.predictions` lists those of
  all knots behind.
* `Plant.Solved` says that correction and gain at a knot come from this solve, `Plant.FailsAt` that
  a pass cannot go over the knot.
* `Policy.AgreeFrom` says that two policies do the same from a knot on. Then all of the above is the
  same (`Plant.valueAlong_congr` and what follows it).
-/

namespace ProjectedNewton

variable {α : Type} {n m T : Nat}

/-! ## Knots from the last one to the front -/

theorem reverse_drop_finRange_last : ((List.finRange T).drop T).reverse = [] := by
  rw [List.drop_of_length_le (Nat.le_of_eq List.length_finRange)]
  rfl

/-- On the way from the last knot to the front, a knot comes after those behind it. -/
theorem reverse_drop_finRange {i : Nat} (hi : i < T) : ((List.finRange T).drop i).reverse
      = ((List.finRange T).drop (i + 1)).reverse ++ [⟨i, hi⟩] := by
  rw [List.drop_eq_getElem_cons (by rwa [List.length_finRange]), List.getElem_finRange,
    List.reverse_cons]
  rfl

theorem le_of_mem_drop_finRange {i : Nat} {j : Fin T} (h : j ∈ (List.finRange T).drop i) :
    i ≤ j.val := by
  obtain ⟨k, hk, rfl⟩ := List.mem_iff_getElem.mp h
  rw [List.getElem_drop, List.getElem_finRange]
  exact Nat.le_add_right i k

/-! ## Policies -/

namespace Policy

variable {policy policy' : Policy α n m T} {k : Vec α m} {K : Mat α m n} {i j : Fin T}

@[simp] theorem correction_set_self : (policy.set i k K).correction i = k :=
  Vector.getElem_set_self i.isLt

@[simp] theorem gain_set_self : (policy.set i k K).gain i = K := Vector.getElem_set_self i.isLt

theorem correction_set_of_ne (h : i ≠ j) : (policy.set i k K).correction j = policy.correction j :=
  Vector.getElem_set_ne i.isLt j.isLt (Fin.val_ne_of_ne h)

theorem gain_set_of_ne (h : i ≠ j) : (policy.set i k K).gain j = policy.gain j :=
  Vector.getElem_set_ne i.isLt j.isLt (Fin.val_ne_of_ne h)

/-- The policies do the same from knot `i` on. -/
def AgreeFrom (i : Nat) (policy policy' : Policy α n m T) : Prop :=
  ∀ j : Fin T, i ≤ j.val → policy.correction j = policy'.correction j ∧
    policy.gain j = policy'.gain j

theorem agreeFrom_set (policy : Policy α n m T) (i : Fin T) (k : Vec α m) (K : Mat α m n) :
    AgreeFrom (i.val + 1) policy (policy.set i k K) := by
  intro j hj
  have hne : i ≠ j := by
    rintro rfl
    exact Nat.not_succ_le_self _ hj
  exact ⟨(correction_set_of_ne hne).symm, (gain_set_of_ne hne).symm⟩

variable [Scalar α]

/-- The point from which the solve in front of a knot starts: the correction at that knot. -/
def warmStart (policy : Policy α n m T) (i : Fin (T + 1)) : Vec α m :=
  Fin.lastCases (motive := fun _ => Vec α m) (Vec.zero m) policy.correction i

@[simp] theorem warmStart_last (policy : Policy α n m T) :
    policy.warmStart (Fin.last T) = Vec.zero m :=
  Fin.lastCases_last

@[simp] theorem warmStart_castSucc (policy : Policy α n m T) (i : Fin T) :
    policy.warmStart i.castSucc = policy.correction i :=
  Fin.lastCases_castSucc i

theorem warmStart_congr {i : Nat} (h : AgreeFrom i policy policy') {j : Fin (T + 1)}
    (hj : i ≤ j.val) : policy.warmStart j = policy'.warmStart j := by
  cases j using Fin.lastCases with
  | last => rw [warmStart_last, warmStart_last]
  | cast j => rw [warmStart_castSucc, warmStart_castSucc, (h j hj).1]

end Policy

variable [Scalar α]

/-! ## Models along a reference -/

namespace Plant

variable (plant : Plant α n m) (s : Settings α) (reference : Trajectory α n m T)
  (policy : Policy α n m T)

/-- The model of the cost that follows a knot, if the controls are corrected by the policy. -/
def valueAlong (i : Fin (T + 1)) : ValueModel α n :=
  Fin.reverseInduction (motive := fun _ => ValueModel α n)
    (plant.terminal (reference.state (Fin.last T)))
    (fun i V => (plant.expand V (reference.state i.castSucc) (reference.control i)).backup
      (policy.correction i) (policy.gain i)) i

/-- The model at a knot. -/
def modelAlong (i : Fin T) : KnotModel α n m :=
  plant.expand (plant.valueAlong reference policy i.succ) (reference.state i.castSucc)
    (reference.control i)

/-- The problem of the best correction at a knot. -/
def problemAlong (i : Fin T) : Problem α m :=
  plant.correction (plant.modelAlong reference policy i) (reference.control i)

/-- The outcome of the solve at a knot. -/
def solveAlong (i : Fin T) : Except (FactorizationError α) (Solution α m) :=
  (plant.problemAlong reference policy i).outcome s (policy.warmStart i.succ) s.maxIterations

/-- The objective of the correction at a knot: the change of the cost that it predicts. -/
def predicted (i : Fin T) : α :=
  quadraticValue (plant.modelAlong reference policy i).controlHessian
    (plant.modelAlong reference policy i).controlGradient (policy.correction i)

/-- The predictions at the knots from knot `i` on, the last one first. -/
def predictions (i : Nat) : List (Nat × α) :=
  ((List.finRange T).drop i).reverse.map fun j => (j.val, plant.predicted reference policy j)

/-- Correction and gain at a knot are those of the solution `sol`. -/
structure SolvedBy (i : Fin T) (sol : Solution α m) : Prop where
  outcome : plant.solveAlong s reference policy i = .ok sol
  correction : policy.correction i = sol.x
  gain : sol.gain? (plant.modelAlong reference policy i).mixed = some (policy.gain i)

/-- Correction and gain at a knot are those of its solution. -/
def Solved (i : Fin T) : Prop := ∃ sol, plant.SolvedBy s reference policy i sol

/-- A pass fails at a knot, behind which it has found the policy. -/
inductive FailsAt (i : Fin T) : PassError α → Prop
  | solve {e : FactorizationError α}
      (breaks : plant.solveAlong s reference policy i = .error e) : FailsAt i (.solve e)
  | inverseSize {sol : Solution α m} (outcome : plant.solveAlong s reference policy i = .ok sol)
      (gainless : sol.gain? (plant.modelAlong reference policy i).mixed = none) :
      FailsAt i .inverseSize

variable {plant s reference policy} {policy' : Policy α n m T}

@[simp] theorem valueAlong_last : plant.valueAlong reference policy (Fin.last T)
      = plant.terminal (reference.state (Fin.last T)) :=
  Fin.reverseInduction_last

theorem valueAlong_castSucc (i : Fin T) : plant.valueAlong reference policy i.castSucc
      = (plant.modelAlong reference policy i).backup (policy.correction i) (policy.gain i) :=
  Fin.reverseInduction_castSucc i

/-- The model of what follows a knot only depends on what the policy does from there on. -/
theorem valueAlong_congr {i : Nat} (h : Policy.AgreeFrom i policy policy') {j : Fin (T + 1)}
    (hj : i ≤ j.val) :
    plant.valueAlong reference policy j = plant.valueAlong reference policy' j := by
  induction j using Fin.reverseInduction with
  | last => rw [valueAlong_last, valueAlong_last]
  | cast j ih =>
    obtain ⟨hcorrection, hgain⟩ := h j hj
    rw [valueAlong_castSucc, valueAlong_castSucc, modelAlong, modelAlong,
      ih (Nat.le_succ_of_le hj), hcorrection, hgain]

theorem modelAlong_congr {i : Nat} (h : Policy.AgreeFrom i policy policy') {j : Fin T}
    (hj : i ≤ j.val + 1) :
    plant.modelAlong reference policy j = plant.modelAlong reference policy' j := by
  rw [modelAlong, modelAlong, valueAlong_congr h (j := j.succ) hj]

theorem solveAlong_congr {i : Nat} (h : Policy.AgreeFrom i policy policy') {j : Fin T}
    (hj : i ≤ j.val + 1) :
    plant.solveAlong s reference policy j = plant.solveAlong s reference policy' j := by
  unfold solveAlong problemAlong
  rw [modelAlong_congr h hj, Policy.warmStart_congr h (j := j.succ) hj]

theorem predicted_congr {i : Nat} (h : Policy.AgreeFrom i policy policy') {j : Fin T}
    (hj : i ≤ j.val) :
    plant.predicted reference policy j = plant.predicted reference policy' j := by
  unfold predicted
  rw [modelAlong_congr h (Nat.le_succ_of_le hj), (h j hj).1]

theorem predictions_last : plant.predictions reference policy T = [] := by
  unfold predictions
  rw [reverse_drop_finRange_last]
  rfl

/-- The prediction at a knot comes after those at the knots behind it. -/
theorem predictions_succ {i : Nat} (hi : i < T) : plant.predictions reference policy i
      = plant.predictions reference policy (i + 1)
        ++ [(i, plant.predicted reference policy ⟨i, hi⟩)] := by
  unfold predictions
  rw [reverse_drop_finRange hi, List.map_append, List.map_singleton]

theorem predictions_congr {i : Nat} (h : Policy.AgreeFrom i policy policy') :
    plant.predictions reference policy i = plant.predictions reference policy' i := by
  refine List.map_congr_left ?_
  intro j hj
  rw [predicted_congr h (le_of_mem_drop_finRange (List.mem_reverse.mp hj))]

theorem Solved.congr {i : Nat} (h : Policy.AgreeFrom i policy policy') {j : Fin T}
    (hj : i ≤ j.val) (hsolved : plant.Solved s reference policy j) :
    plant.Solved s reference policy' j := by
  obtain ⟨sol, houtcome, hcorrection, hgain⟩ := hsolved
  refine ⟨sol, ?_, ?_, ?_⟩
  · rw [← houtcome, solveAlong_congr h (Nat.le_succ_of_le hj)]
  · rw [← hcorrection, (h j hj).1]
  · rw [← modelAlong_congr h (Nat.le_succ_of_le hj), hgain, (h j hj).2]

end Plant

end ProjectedNewton
