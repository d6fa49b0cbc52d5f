import ProjectedNewton.Proofs.Control.Along
import ProjectedNewton.Proofs.Solver.Outcome

/-!
# What a backward pass computes

A backward pass is described without its states: by the policy that it finds, knot by knot, and by
the problems that it solves for it. These are the problems along the reference under the very policy
that is found.

* `Pass.knot_cases` lists the ways a pass can go over a knot.
* `Pass.Reaches` holds of the passes on the way from the last knot to the first, and
  `Pass.sweep_cases` says that a sweep ends at one of them.
* `Pass.Behind` says what a pass has found behind a knot; `Pass.Behind.knot` preserves it over one
  knot and `Pass.Reaches.behind` over all.
* `Memory.backward_cases` lists the answers; `Memory.backward_ok` and `Memory.backward_error` say
  what they tell about the knots.
-/

namespace ProjectedNewton

variable {α : Type} [Scalar α] {n m T : Nat}

/-! ## One knot -/

/-- What a pass reports of a knot: its index and the objective of its correction. -/
def PassEvent.logged? : PassEvent α → Option (Nat × α)
  | solver _ => none
  | knot i value _ _ => some (i, value)

/-- A solver's report of a solve does not depend on its memory. -/
theorem Memory.solve_outcome (memory : Memory α m) (s : Settings α) (p : Problem α m)
    (start : Vec α m) : (memory.solve s p start).2.outcome = p.outcome s start s.maxIterations := by
  rw [Solver.memory_solve_report]
  rfl

omit [Scalar α] in
theorem toList_push_solver (trace : Array (PassEvent α)) (events : Array (Event α))
    (event : PassEvent α) : ((trace ++ events.map PassEvent.solver).push event).toList
      = trace.toList ++ (events.toList.map PassEvent.solver ++ [event]) := by
  rw [Array.toList_push, Array.toList_append, Array.toList_map, List.append_assoc]

omit [Scalar α] in
/-- Of all that is reported at a knot, only the last event is about the knot. -/
theorem filterMap_logged?_push (trace : Array (PassEvent α)) (events : Array (Event α)) (i : Nat)
    (value : α) (clamped : List Nat) (iterations : Nat) :
    ((trace ++ events.map PassEvent.solver).push
        (.knot i value clamped iterations)).toList.filterMap PassEvent.logged?
      = trace.toList.filterMap PassEvent.logged? ++ [(i, value)] := by
  have hsolver : (events.toList.map PassEvent.solver).filterMap PassEvent.logged? = [] := by
    rw [List.filterMap_map]
    exact List.filterMap_eq_nil_iff.mpr fun _ _ => rfl
  rw [toList_push_solver, List.filterMap_append, List.filterMap_append, hsolver]
  rfl

namespace Pass

variable (plant : Plant α n m) (s : Settings α) (reference : Trajectory α n m T)

/-- The outcome of the solve at knot `i`. -/
def solveAt (pass : Pass α n m T) (i : Fin T) : Except (FactorizationError α) (Solution α m) :=
  (plant.correction (pass.model plant reference i) (reference.control i)).outcome s pass.warmStart
    s.maxIterations

/-- The ways a pass can go over a knot. -/
inductive KnotCase (i : Fin T) (pass : Pass α n m T) :
    Pass α n m T × Option (PassError α) → Prop
  /-- The solve fails. -/
  | broken {e : FactorizationError α} (next : Pass α n m T)
      (breaks : pass.solveAt plant s reference i = .error e) :
      KnotCase i pass (next, some (.solve e))
  /-- The inverse does not fit the free controls. -/
  | mismatch {sol : Solution α m} (next : Pass α n m T)
      (outcome : pass.solveAt plant s reference i = .ok sol)
      (gainless : sol.gain? (pass.model plant reference i).mixed = none) :
      KnotCase i pass (next, some .inverseSize)
  /-- Correction and gain are found, and the model is moved to the front. -/
  | passed {sol : Solution α m} {K : Mat α m n} (memory : Memory α m)
      (events : Array (Event α)) (outcome : pass.solveAt plant s reference i = .ok sol)
      (gain : sol.gain? (pass.model plant reference i).mixed = some K) :
      KnotCase i pass
        ({ value := (pass.model plant reference i).backup sol.x K
           warmStart := sol.x
           memory := memory
           policy := pass.policy.set i sol.x K
           trace := (pass.trace ++ events.map PassEvent.solver).push
            (.knot i (quadraticValue (pass.model plant reference i).controlHessian
              (pass.model plant reference i).controlGradient sol.x)
              (sol.partition.clamped.map Fin.val) sol.iterations) }, none)

/-- **A pass goes over a knot in one of three ways.** -/
theorem knot_cases (i : Fin T) (pass : Pass α n m T) :
    KnotCase plant s reference i pass (pass.knot plant s reference i) := by
  have houtcome : (pass.memory.solve s (plant.correction (pass.model plant reference i)
      (reference.control i)) pass.warmStart).2.outcome = pass.solveAt plant s reference i :=
    Memory.solve_outcome _ _ _ _
  unfold knot
  dsimp only
  generalize pass.memory.solve s _ pass.warmStart = result at houtcome
  obtain ⟨memory, report⟩ := result
  dsimp only at houtcome ⊢
  rw [houtcome]
  cases hsolve : pass.solveAt plant s reference i with
  | error e => exact .broken _ hsolve
  | ok sol =>
    dsimp only
    cases hgain : sol.gain? (pass.model plant reference i).mixed with
    | none => exact .mismatch _ hsolve hgain
    | some K => exact .passed memory report.trace hsolve hgain

/-- What a pass that stands in front of knot `i` has found behind it. -/
structure Behind (i : Nat) (hi : i ≤ T) (pass : Pass α n m T) : Prop where
  value : pass.value = plant.valueAlong reference pass.policy ⟨i, Nat.lt_succ_of_le hi⟩
  warmStart : pass.warmStart = pass.policy.warmStart ⟨i, Nat.lt_succ_of_le hi⟩
  solved : ∀ j : Fin T, i ≤ j.val → plant.Solved s reference pass.policy j
  logged : pass.trace.toList.filterMap PassEvent.logged?
    = plant.predictions reference pass.policy i

variable {plant s reference} {i : Nat} {pass next : Pass α n m T}

theorem behind_start (plant : Plant α n m) (s : Settings α) (reference : Trajectory α n m T)
    (memory : Memory α m) :
    (start plant reference memory).Behind plant s reference T (Nat.le_refl T) where
  value := Plant.valueAlong_last.symm
  warmStart := (Policy.warmStart_last _).symm
  solved := fun j hj => absurd j.isLt (Nat.not_lt.mpr hj)
  logged := Plant.predictions_last.symm

/-- In front of a knot, the pass has the model and solves the problem of the policy so far. -/
theorem Behind.model_eq {hi : i + 1 ≤ T} (h : pass.Behind plant s reference (i + 1) hi) :
    pass.model plant reference ⟨i, hi⟩ = plant.modelAlong reference pass.policy ⟨i, hi⟩ := by
  unfold model Plant.modelAlong
  rw [h.value]
  rfl

theorem Behind.solveAt_eq {hi : i + 1 ≤ T} (h : pass.Behind plant s reference (i + 1) hi) :
    pass.solveAt plant s reference ⟨i, hi⟩
      = plant.solveAlong s reference pass.policy ⟨i, hi⟩ := by
  unfold solveAt Plant.solveAlong Plant.problemAlong
  rw [h.model_eq, h.warmStart]
  rfl

/-- **A pass that goes over a knot has found correction and gain of that knot.** -/
theorem Behind.knot {hi : i + 1 ≤ T} (h : pass.Behind plant s reference (i + 1) hi)
    (hknot : pass.knot plant s reference ⟨i, hi⟩ = (next, none)) :
    next.Behind plant s reference i (Nat.le_of_succ_le hi) := by
  have hcase := knot_cases plant s reference ⟨i, hi⟩ pass
  rw [hknot] at hcase
  cases hcase with
  | @passed sol K memory events outcome gain =>
    -- The new policy differs from the old one at this knot only, so that nothing behind it changes,
    -- and neither does the model here.
    have hagree := Policy.agreeFrom_set pass.policy ⟨i, hi⟩ sol.x K
    have hmodel : plant.modelAlong reference (pass.policy.set ⟨i, hi⟩ sol.x K) ⟨i, hi⟩
        = pass.model plant reference ⟨i, hi⟩ := by
      rw [h.model_eq, Plant.modelAlong_congr hagree (Nat.le_refl _)]
    have hsolved : plant.Solved s reference (pass.policy.set ⟨i, hi⟩ sol.x K) ⟨i, hi⟩ := by
      refine ⟨sol, ?_, Policy.correction_set_self, ?_⟩
      · rw [← Plant.solveAlong_congr hagree (Nat.le_refl _), ← h.solveAt_eq, outcome]
      · rw [hmodel, gain, Policy.gain_set_self]
    refine ⟨?_, ?_, ?_, ?_⟩
    · show _ = plant.valueAlong reference _ (Fin.castSucc ⟨i, hi⟩)
      rw [Plant.valueAlong_castSucc, hmodel, Policy.correction_set_self, Policy.gain_set_self]
    · show sol.x = Policy.warmStart _ (Fin.castSucc ⟨i, hi⟩)
      rw [Policy.warmStart_castSucc, Policy.correction_set_self]
    · intro j hj
      rcases Nat.eq_or_lt_of_le hj with heq | hlt
      · obtain rfl : (⟨i, hi⟩ : Fin T) = j := Fin.ext heq
        exact hsolved
      · exact (h.solved j hlt).congr hagree hlt
    · dsimp only
      rw [filterMap_logged?_push, h.logged, Plant.predictions_succ hi,
        Plant.predictions_congr hagree]
      unfold Plant.predicted
      rw [hmodel, Policy.correction_set_self]

theorem Behind.failsAt {hi : i + 1 ≤ T} (h : pass.Behind plant s reference (i + 1) hi)
    {e : PassError α} (hknot : pass.knot plant s reference ⟨i, hi⟩ = (next, some e)) :
    plant.FailsAt s reference pass.policy ⟨i, hi⟩ e := by
  have hcase := knot_cases plant s reference ⟨i, hi⟩ pass
  rw [hknot] at hcase
  cases hcase with
  | broken _ breaks => exact .solve (h.solveAt_eq ▸ breaks)
  | mismatch _ outcome gainless =>
    exact .inverseSize (h.solveAt_eq ▸ outcome) (h.model_eq ▸ gainless)

/-! ## All knots -/

/-- The passes that come by on the way of a pass: it has gone over all knots behind knot `i`. -/
inductive Reaches (plant : Plant α n m) (s : Settings α) (reference : Trajectory α n m T)
    (memory : Memory α m) : (i : Nat) → i ≤ T → Pass α n m T → Prop
  | start : Reaches plant s reference memory T (Nat.le_refl T) (start plant reference memory)
  | knot {i : Nat} {hi : i + 1 ≤ T} {pass next : Pass α n m T}
      (reached : Reaches plant s reference memory (i + 1) hi pass)
      (passed : pass.knot plant s reference ⟨i, hi⟩ = (next, none)) :
      Reaches plant s reference memory i (Nat.le_of_succ_le hi) next

/-- The ways a sweep can end. -/
inductive SweepCase (plant : Plant α n m) (s : Settings α) (reference : Trajectory α n m T)
    (memory : Memory α m) : Pass α n m T × Option (PassError α) → Prop
  /-- The pass has gone over all knots. -/
  | passed {final : Pass α n m T}
      (reached : Reaches plant s reference memory 0 (Nat.zero_le T) final) :
      SweepCase plant s reference memory (final, none)
  /-- It has failed at one of them. -/
  | failed {i : Nat} {hi : i + 1 ≤ T} {pass final : Pass α n m T} {e : PassError α}
      (reached : Reaches plant s reference memory (i + 1) hi pass)
      (fails : pass.knot plant s reference ⟨i, hi⟩ = (final, some e)) :
      SweepCase plant s reference memory (final, some e)

variable {memory : Memory α m}

/-- **A pass goes over all knots, or fails at one of them.** -/
theorem sweep_cases {hi : i ≤ T} (h : Reaches plant s reference memory i hi pass) :
    SweepCase plant s reference memory (pass.sweep plant s reference i hi) := by
  induction i generalizing pass with
  | zero => exact .passed h
  | succ i ih =>
    unfold sweep
    cases hknot : pass.knot plant s reference ⟨i, hi⟩ with
    | mk next failure =>
      cases failure with
      | none => exact ih (h.knot hknot)
      | some e => exact .failed h hknot

/-- **Every pass on the way has correction and gain of all knots behind it.** -/
theorem Reaches.behind {hi : i ≤ T} (h : Reaches plant s reference memory i hi pass) :
    pass.Behind plant s reference i hi := by
  induction h with
  | start => exact behind_start plant s reference memory
  | knot reached passed ih => exact ih.knot passed

end Pass

/-! ## The answer of a pass -/

section Answer

variable {plant : Plant α n m} {s : Settings α} {reference : Trajectory α n m T}
  {memory : Memory α m}

/-- What a pass with the memory `memory` can answer. -/
inductive Pass.AnswerCase (plant : Plant α n m) (s : Settings α) (reference : Trajectory α n m T)
    (memory : Memory α m) : PassAnswer α n m T → Prop
  /-- The policy that it has found at the first knot. -/
  | passed {final : Pass α n m T}
      (reached : Pass.Reaches plant s reference memory 0 (Nat.zero_le T) final) :
      AnswerCase plant s reference memory ⟨.ok final.policy, final.trace⟩
  /-- The error of the knot at which it has failed. -/
  | failed {i : Nat} {hi : i + 1 ≤ T} {pass final : Pass α n m T} {e : PassError α}
      (reached : Pass.Reaches plant s reference memory (i + 1) hi pass)
      (fails : pass.knot plant s reference ⟨i, hi⟩ = (final, some e)) :
      AnswerCase plant s reference memory ⟨.error e, final.trace⟩

/-- **A pass answers with its policy or with the error of a knot.** -/
theorem Memory.backward_cases (memory : Memory α m) (s : Settings α) (plant : Plant α n m)
    (reference : Trajectory α n m T) :
    Pass.AnswerCase plant s reference memory (memory.backward s plant reference).2 := by
  have hsweep := Pass.sweep_cases (Pass.Reaches.start : Pass.Reaches plant s reference memory _ _ _)
  unfold backward
  dsimp only
  generalize Pass.sweep plant s reference T _ _ = result at hsweep ⊢
  cases hsweep with
  | passed reached => exact .passed reached
  | failed reached fails => exact .failed reached fails

/-- **The policy that is returned has been solved for at every knot**, and the objectives of its
corrections have been reported, from the last knot to the first. -/
theorem Memory.backward_ok {policy : Policy α n m T}
    (h : (memory.backward s plant reference).2.outcome = .ok policy) :
    (∀ i, plant.Solved s reference policy i) ∧
    (memory.backward s plant reference).2.trace.toList.filterMap PassEvent.logged?
      = (List.finRange T).reverse.map fun i => (i.val, plant.predicted reference policy i) := by
  have hanswer := memory.backward_cases s plant reference
  generalize (memory.backward s plant reference).2 = answer at h hanswer ⊢
  cases hanswer with
  | failed reached fails => cases h
  | passed reached =>
    cases h
    exact ⟨fun i => reached.behind.solved i (Nat.zero_le _), reached.behind.logged⟩

/-- **A pass that fails has solved for everything behind the knot where it fails.** -/
theorem Memory.backward_error {e : PassError α}
    (h : (memory.backward s plant reference).2.outcome = .error e) :
    ∃ (i : Fin T) (policy : Policy α n m T),
      (∀ j, i < j → plant.Solved s reference policy j) ∧ plant.FailsAt s reference policy i e := by
  have hanswer := memory.backward_cases s plant reference
  generalize (memory.backward s plant reference).2 = answer at h hanswer
  cases hanswer with
  | passed reached => cases h
  | @failed i hi pass final e' reached fails =>
    cases h
    exact ⟨⟨i, hi⟩, pass.policy, reached.behind.solved, reached.behind.failsAt fails⟩

end Answer

/-! ## Passes with a solver -/

namespace Solver

variable {solver : Solver α} {plant : Plant α n m} {reference : Trajectory α n m T}

/-- A pass is made in the memory of a solver whose dimension is the number of controls. -/
theorem exists_backward?_eq (plant : Plant α n m) (reference : Trajectory α n m T)
    (h : solver.dimension = m) : ∃ solver', solver.backward? plant reference = some (solver',
      ((h ▸ solver.memory : Memory α m).backward solver.settings plant reference).2) := by
  unfold backward?
  rw [dif_pos h]
  exact ⟨_, rfl⟩

theorem exists_backward? (h : solver.dimension = m) :
    ∃ solver' answer, solver.backward? plant reference = some (solver', answer) := by
  obtain ⟨solver', hpass⟩ := exists_backward?_eq plant reference h
  exact ⟨solver', _, hpass⟩

/-- The answer of a pass is that of a pass with the memory of the solver. -/
theorem exists_memory_of_backward? {solver' : Solver α} {answer : PassAnswer α n m T}
    (h : solver.backward? plant reference = some (solver', answer)) :
    ∃ memory : Memory α m, answer = (memory.backward solver.settings plant reference).2 := by
  unfold backward? at h
  split at h
  · cases h
    exact ⟨_, rfl⟩
  · cases h

end Solver

end ProjectedNewton
