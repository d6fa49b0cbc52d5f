import ProjectedNewton.Proofs.Control.Gains

/-!
# Passes that stop at a knot

What a pass has reported and which solution its solver has kept can be told, like its models, from
the policy that it has found. Every knot that it has gone over has left the events of its solve and
one event of its own, and the solver keeps the solution of the last one.

At the knot where a pass stops, either the solve fails or the gain cannot be made. The solve is
reported in both cases, and the knot in none. A solve that fails leaves the solution of the knot
behind, while one without a gain has replaced it.

* `Plant.eventsFrom` lists the events of the knots behind, `Plant.lastSolution` is the solution that
  the solver has kept.
* `Pass.Recorded` says that trace and memory of a pass agree with that; `Pass.Recorded.knot`
  preserves it over one knot and `Pass.Reaches.recorded` over all.
* `Plant.StoppedAt` says what is left of a pass that has stopped at a knot, and
  `Memory.stoppedAt_of_backward` that every failing pass has stopped like this.
-/

namespace ProjectedNewton

variable {α : Type} [Scalar α] {n m T : Nat}

/-! ## Events and solutions along a reference -/

namespace Plant

variable (plant : Plant α n m) (s : Settings α) (reference : Trajectory α n m T)
  (policy : Policy α n m T)

/-- The report of the solve at a knot. -/
def reportAlong (i : Fin T) : Report α m :=
  ((Workspace.fresh m).solve s (plant.problemAlong reference policy i)
    (policy.warmStart i.succ)).2

/-- What is reported of the solve at a knot. -/
def solveEvents (i : Fin T) : List (PassEvent α) :=
  (plant.reportAlong s reference policy i).trace.toList.map PassEvent.solver

/-- What is reported of a knot: its solve, and if that returns a solution, the knot itself. -/
def knotEvents (i : Fin T) : List (PassEvent α) :=
  plant.solveEvents s reference policy i ++
    (plant.solveAlong s reference policy i).toOption.toList.map fun sol =>
      .knot i (plant.predicted reference policy i) (sol.partition.clamped.map Fin.val)
        sol.iterations

/-- What is reported of the knots from knot `i` on, the last one first. -/
def eventsFrom (i : Nat) : List (PassEvent α) :=
  ((List.finRange T).drop i).reverse.flatMap (plant.knotEvents s reference policy)

/-- The solution that a solver has kept in front of knot `i`: that of the knot there, or behind the
last one, the solution from before the pass. -/
def lastSolution (before : Option (SomeSolution α)) (i : Fin (T + 1)) : Option (SomeSolution α) :=
  Fin.lastCases (motive := fun _ => Option (SomeSolution α)) before
    (fun j => (plant.solveAlong s reference policy j).toOption.map (SomeSolution.mk m)) i

/-- A pass stops at knot `i`, behind which it has found the policy, with an error and a solution
that the solver has kept. -/
inductive StopsAt (before : Option (SomeSolution α)) (i : Fin T) :
    PassError α → Option (SomeSolution α) → Prop
  /-- The solve fails, and the solution of the knot behind is kept. -/
  | solve {e : FactorizationError α}
      (breaks : plant.solveAlong s reference policy i = .error e) :
      StopsAt before i (.solve e) (plant.lastSolution s reference policy before i.succ)
  /-- The solution of this knot is kept, but its inverse does not fit the free controls. -/
  | inverseSize {sol : Solution α m} (outcome : plant.solveAlong s reference policy i = .ok sol)
      (free : sol.partition.free ≠ []) (size : sol.inverse.size ≠ sol.partition.free.length) :
      StopsAt before i .inverseSize (some ⟨m, sol⟩)

/-- What is left of a pass that has stopped at knot `i`. -/
structure StoppedAt (before : Option (SomeSolution α)) (i : Fin T) (e : PassError α)
    (kept : Option (SomeSolution α)) (trace : Array (PassEvent α)) : Prop where
  behind : ∀ j, i < j → plant.Solved s reference policy j
  stops : plant.StopsAt s reference policy before i e kept
  /-- The events of the knots behind, and those of the last solve. -/
  trace : trace.toList
    = plant.eventsFrom s reference policy (i + 1) ++ plant.solveEvents s reference policy i

variable {plant s reference policy} {policy' : Policy α n m T} {before : Option (SomeSolution α)}

theorem knotEvents_of_solvedBy {i : Fin T} {sol : Solution α m}
    (h : plant.SolvedBy s reference policy i sol) : plant.knotEvents s reference policy i
      = plant.solveEvents s reference policy i ++ [.knot i (plant.predicted reference policy i)
          (sol.partition.clamped.map Fin.val) sol.iterations] := by
  unfold knotEvents
  rw [h.outcome]
  rfl

theorem solveEvents_congr {i : Nat} (h : Policy.AgreeFrom i policy policy') {j : Fin T}
    (hj : i ≤ j.val + 1) :
    plant.solveEvents s reference policy j = plant.solveEvents s reference policy' j := by
  unfold solveEvents reportAlong problemAlong
  rw [modelAlong_congr h hj, Policy.warmStart_congr h (j := j.succ) hj]

theorem knotEvents_congr {i : Nat} (h : Policy.AgreeFrom i policy policy') {j : Fin T}
    (hj : i ≤ j.val) :
    plant.knotEvents s reference policy j = plant.knotEvents s reference policy' j := by
  unfold knotEvents
  rw [solveEvents_congr h (Nat.le_succ_of_le hj), solveAlong_congr h (Nat.le_succ_of_le hj),
    predicted_congr h hj]

theorem eventsFrom_last : plant.eventsFrom s reference policy T = [] := by
  unfold eventsFrom
  rw [reverse_drop_finRange_last]
  rfl

/-- The events of a knot come after those of the knots behind it. -/
theorem eventsFrom_succ {i : Nat} (hi : i < T) : plant.eventsFrom s reference policy i
      = plant.eventsFrom s reference policy (i + 1)
        ++ plant.knotEvents s reference policy ⟨i, hi⟩ := by
  unfold eventsFrom
  rw [reverse_drop_finRange hi, List.flatMap_append, List.flatMap_singleton]

theorem eventsFrom_congr {i : Nat} (h : Policy.AgreeFrom i policy policy') :
    plant.eventsFrom s reference policy i = plant.eventsFrom s reference policy' i := by
  refine List.flatMap_congr ?_
  intro j hj
  exact knotEvents_congr h (le_of_mem_drop_finRange (List.mem_reverse.mp hj))

@[simp] theorem lastSolution_last :
    plant.lastSolution s reference policy before (Fin.last T) = before :=
  Fin.lastCases_last

@[simp] theorem lastSolution_castSucc (i : Fin T) :
    plant.lastSolution s reference policy before i.castSucc
      = (plant.solveAlong s reference policy i).toOption.map (SomeSolution.mk m) :=
  Fin.lastCases_castSucc i

end Plant

/-! ## What one knot leaves -/

namespace Pass

variable (plant : Plant α n m) (s : Settings α) (reference : Trajectory α n m T)

/-- The report of the solve at knot `i`. -/
def reportAt (pass : Pass α n m T) (i : Fin T) : Report α m :=
  ((Workspace.fresh m).solve s
    (plant.correction (pass.model plant reference i) (reference.control i)) pass.warmStart).2

/-- The event of knot `i` once it is solved. -/
def knotEvent (pass : Pass α n m T) (i : Fin T) (sol : Solution α m) : PassEvent α :=
  .knot i (quadraticValue (pass.model plant reference i).controlHessian
    (pass.model plant reference i).controlGradient sol.x) (sol.partition.clamped.map Fin.val)
    sol.iterations

/-- A knot leaves the solution of its solve, whether or not the pass goes over it. -/
theorem knot_solution (pass : Pass α n m T) (i : Fin T) :
    (pass.knot plant s reference i).1.memory.solution
      = ((pass.solveAt plant s reference i).toOption.map (SomeSolution.mk m)).or
          pass.memory.solution := by
  have hmemory : (pass.knot plant s reference i).1.memory = (pass.memory.solve s (plant.correction
      (pass.model plant reference i) (reference.control i)) pass.warmStart).1 := by
    unfold knot
    dsimp only
    split
    · rfl
    · split
      · rfl
      · rfl
  have houtcome : (pass.reportAt plant s reference i).outcome = pass.solveAt plant s reference i :=
    rfl
  rw [hmemory, Solver.memory_solve_solution, Solver.memory_solve_report, ← houtcome]
  unfold Report.answer reportAt
  dsimp only
  split
  · next hsol =>
    rw [hsol]
    rfl
  · next he =>
    rw [he]
    rfl

section Trace

variable {plant s reference} {i : Fin T} {pass next : Pass α n m T}

/-- A knot where the pass stops leaves the events of its solve. -/
theorem knot_trace_of_error {e : PassError α}
    (h : pass.knot plant s reference i = (next, some e)) : next.trace.toList
      = pass.trace.toList
        ++ (pass.reportAt plant s reference i).trace.toList.map PassEvent.solver := by
  rw [reportAt, ← Solver.memory_solve_report pass.memory, ← Array.toList_map,
    ← Array.toList_append]
  unfold knot at h
  dsimp only at h
  split at h
  · cases h
    rfl
  · split at h
    · cases h
      rfl
    · cases h

/-- A knot that the pass goes over leaves its own event behind those of its solve. -/
theorem knot_trace_of_none {sol : Solution α m}
    (h : pass.knot plant s reference i = (next, none))
    (hsol : pass.solveAt plant s reference i = .ok sol) : next.trace.toList
      = pass.trace.toList
        ++ ((pass.reportAt plant s reference i).trace.toList.map PassEvent.solver
          ++ [pass.knotEvent plant reference i sol]) := by
  rw [reportAt, ← Solver.memory_solve_report pass.memory, ← toList_push_solver]
  have houtcome : (pass.memory.solve s (plant.correction (pass.model plant reference i)
      (reference.control i)) pass.warmStart).2.outcome = .ok sol :=
    (Memory.solve_outcome _ _ _ _).trans hsol
  unfold knot at h
  dsimp only at h
  rw [houtcome] at h
  dsimp only at h
  split at h
  · cases h
  · cases h
    rfl

/-- The pass keeps to what it has found behind a knot that it goes over. -/
theorem agreeFrom_of_knot (h : pass.knot plant s reference i = (next, none)) :
    Policy.AgreeFrom (i.val + 1) pass.policy next.policy := by
  have hcase := knot_cases plant s reference i pass
  rw [h] at hcase
  cases hcase with
  | passed memory events outcome gain => exact Policy.agreeFrom_set pass.policy i _ _

end Trace

/-! ## All knots -/

/-- A pass that stands in front of knot `i` has left the events of the knots there and the last of
their solutions. -/
structure Recorded (before : Option (SomeSolution α)) (i : Nat) (hi : i ≤ T)
    (pass : Pass α n m T) : Prop where
  solution : pass.memory.solution
    = plant.lastSolution s reference pass.policy before ⟨i, Nat.lt_succ_of_le hi⟩
  trace : pass.trace.toList = plant.eventsFrom s reference pass.policy i

variable {memory : Memory α m} {before : Option (SomeSolution α)} {i : Nat}
  {pass next : Pass α n m T}

theorem recorded_start (memory : Memory α m) :
    (start plant reference memory).Recorded plant s reference memory.solution T
      (Nat.le_refl T) where
  solution := Plant.lastSolution_last.symm
  trace := Plant.eventsFrom_last.symm

variable {plant s reference}

/-- In front of a knot, the events of the solve are those of the policy so far. -/
theorem Behind.solveEvents_eq {hi : i + 1 ≤ T}
    (h : pass.Behind plant s reference (i + 1) hi) :
    (pass.reportAt plant s reference ⟨i, hi⟩).trace.toList.map PassEvent.solver
      = plant.solveEvents s reference pass.policy ⟨i, hi⟩ := by
  unfold reportAt Plant.solveEvents Plant.reportAlong Plant.problemAlong
  rw [h.model_eq, h.warmStart]
  rfl

/-- **A pass that goes over a knot has left its events and its solution.** -/
theorem Recorded.knot {hi : i + 1 ≤ T} (h : pass.Recorded plant s reference before (i + 1) hi)
    (hbehind : pass.Behind plant s reference (i + 1) hi)
    (hknot : pass.knot plant s reference ⟨i, hi⟩ = (next, none)) :
    next.Recorded plant s reference before i (Nat.le_of_succ_le hi) := by
  have hagree : Policy.AgreeFrom (i + 1) pass.policy next.policy := agreeFrom_of_knot hknot
  obtain ⟨sol, hsol⟩ := (hbehind.knot hknot).solved ⟨i, hi⟩ (Nat.le_refl i)
  have hsolve : pass.solveAt plant s reference ⟨i, hi⟩ = .ok sol := by
    rw [hbehind.solveAt_eq, Plant.solveAlong_congr hagree (Nat.le_refl _), hsol.outcome]
  have hevent : pass.knotEvent plant reference ⟨i, hi⟩ sol
      = .knot i (plant.predicted reference next.policy ⟨i, hi⟩)
          (sol.partition.clamped.map Fin.val) sol.iterations := by
    unfold knotEvent Plant.predicted
    rw [hbehind.model_eq, Plant.modelAlong_congr hagree (Nat.le_refl _), hsol.correction]
  constructor
  · have hsolution := knot_solution plant s reference pass ⟨i, hi⟩
    rw [hknot, hsolve] at hsolution
    show _ = plant.lastSolution s reference next.policy before (Fin.castSucc ⟨i, hi⟩)
    rw [Plant.lastSolution_castSucc, hsol.outcome]
    exact hsolution
  · rw [knot_trace_of_none hknot hsolve, h.trace, hbehind.solveEvents_eq, hevent,
      Plant.eventsFrom_succ hi, Plant.knotEvents_of_solvedBy hsol, Plant.eventsFrom_congr hagree,
      Plant.solveEvents_congr hagree (Nat.le_refl _)]

/-- **Every pass on the way has left the events of the knots behind it.** -/
theorem Reaches.recorded {hi : i ≤ T} (h : Reaches plant s reference memory i hi pass) :
    pass.Recorded plant s reference memory.solution i hi := by
  induction h with
  | start => exact recorded_start plant s reference memory
  | knot reached passed ih => exact ih.knot reached.behind passed

/-- A pass that cannot go over a knot has stopped there. -/
theorem Reaches.stoppedAt {hi : i + 1 ≤ T} {e : PassError α}
    (h : Reaches plant s reference memory (i + 1) hi pass)
    (hknot : pass.knot plant s reference ⟨i, hi⟩ = (next, some e)) :
    plant.StoppedAt s reference pass.policy memory.solution ⟨i, hi⟩ e next.memory.solution
      next.trace := by
  have hsolution := knot_solution plant s reference pass ⟨i, hi⟩
  rw [hknot, h.behind.solveAt_eq, h.recorded.solution] at hsolution
  refine ⟨h.behind.solved, ?_, ?_⟩
  · have hfails := h.behind.failsAt hknot
    rw [hsolution]
    cases hfails with
    | solve breaks =>
      rw [breaks]
      exact .solve breaks
    | inverseSize outcome gainless =>
      obtain ⟨hfree, hsize⟩ := Solution.gain?_eq_none_iff.mp gainless
      rw [outcome]
      exact .inverseSize outcome hfree hsize
  · rw [knot_trace_of_error hknot, h.recorded.trace, h.behind.solveEvents_eq]

end Pass

/-- **A pass that fails has stopped at a knot**, and has left what belongs to the knots behind it
and to the solve there. -/
theorem Memory.stoppedAt_of_backward {plant : Plant α n m} {s : Settings α}
    {reference : Trajectory α n m T} {memory : Memory α m} {e : PassError α}
    (h : (memory.backward s plant reference).2.outcome = .error e) :
    ∃ (i : Fin T) (policy : Policy α n m T),
      plant.StoppedAt s reference policy memory.solution i e
        (memory.backward s plant reference).1.solution
        (memory.backward s plant reference).2.trace := by
  have hsweep := Pass.sweep_cases (Pass.Reaches.start : Pass.Reaches plant s reference memory _ _ _)
  unfold backward at h ⊢
  dsimp only at h ⊢
  generalize Pass.sweep plant s reference T _ _ = result at hsweep h ⊢
  cases hsweep with
  | passed reached => cases h
  | @failed i hi pass final e' reached fails =>
    cases h
    exact ⟨⟨i, hi⟩, pass.policy, reached.stoppedAt fails⟩

end ProjectedNewton
