import ProjectedNewton.Control.Arrays.Backward
import ProjectedNewton.Proofs.Solver.Outcome

/-!
# A pass does not see what its solver was used for

A backward pass asks its solver for nothing but answers, and these depend on the dimension and the
settings of the solver only. So passes with two solvers that are configured alike find the same
policy or fail with the same error, and report the same. This is true knot by knot, whether or not
the arrays fit together.

* `Solver.Like` says that two solvers are configured alike.
* `Pass.knot_withMemory` and `ArrayPass.KnotCase.withSolver` are the steps, `Pass.sweep_withMemory`
  and `ArrayPass.sweep_withSolver` the runs.
* `Solver.Like.backward?` and `PlantArrays.backward_withSolver` are the results for whole passes.
-/

namespace ProjectedNewton

variable {α : Type} {n m T : Nat}

/-! ## Solvers that are configured alike -/

namespace Solver

/-- The solvers have the same dimension and settings. -/
structure Like (solver solver' : Solver α) : Prop where
  dimension : solver.dimension = solver'.dimension
  settings : solver.settings = solver'.settings

variable {solver solver' solver'' : Solver α}

theorem Like.symm (h : solver.Like solver') : solver'.Like solver :=
  ⟨h.dimension.symm, h.settings.symm⟩

theorem Like.trans (h : solver.Like solver') (h' : solver'.Like solver'') : solver.Like solver'' :=
  ⟨h.dimension.trans h'.dimension, h.settings.trans h'.settings⟩

variable [Scalar α]

theorem like_solve (solver : Solver α) (arguments : Arguments α) :
    (solver.solve arguments).1.Like solver :=
  ⟨(solver.solve_configuration arguments).1, (solver.solve_configuration arguments).2⟩

/-- Solvers that are configured alike answer alike. -/
theorem Like.solve (h : solver.Like solver') (arguments : Arguments α) :
    (solver.solve arguments).2 = (solver'.solve arguments).2 := by
  rw [solve_eq_fresh, solve_eq_fresh solver', h.dimension, h.settings]

end Solver

variable [Scalar α]

/-! ## Passes of a plant -/

namespace Pass

variable (plant : Plant α n m) (s : Settings α) (reference : Trajectory α n m T)

/-- The pass with other memory. -/
def withMemory (pass : Pass α n m T) (memory : Memory α m) : Pass α n m T := { pass with memory }

/-- At a knot, a pass with other memory differs in its memory only. -/
theorem knot_withMemory (pass : Pass α n m T) (memory : Memory α m) (i : Fin T) : ∃ memory',
    (pass.withMemory memory).knot plant s reference i
      = ((pass.knot plant s reference i).1.withMemory memory',
          (pass.knot plant s reference i).2) := by
  refine ⟨(memory.solve s (plant.correction (pass.model plant reference i)
    (reference.control i)) pass.warmStart).1, ?_⟩
  have hmodel : (pass.withMemory memory).model plant reference i = pass.model plant reference i :=
    rfl
  unfold knot
  dsimp only [withMemory] at hmodel ⊢
  rw [hmodel, Solver.memory_solve_report, Solver.memory_solve_report]
  split
  · rfl
  · split
    · rfl
    · rfl

/-- **A pass with other memory goes over the same knots** and fails at the same one. -/
theorem sweep_withMemory (i : Nat) (hi : i ≤ T) (pass : Pass α n m T) (memory : Memory α m) :
    ∃ memory', (pass.withMemory memory).sweep plant s reference i hi
      = ((pass.sweep plant s reference i hi).1.withMemory memory',
          (pass.sweep plant s reference i hi).2) := by
  induction i generalizing pass memory with
  | zero => exact ⟨memory, rfl⟩
  | succ i ih =>
    obtain ⟨memory', hknot⟩ := knot_withMemory plant s reference pass memory ⟨i, hi⟩
    unfold sweep
    rw [hknot]
    obtain ⟨next, failure⟩ := pass.knot plant s reference ⟨i, hi⟩
    cases failure with
    | none => exact ih (Nat.le_of_succ_le hi) next memory'
    | some e => exact ⟨memory', rfl⟩

end Pass

/-- The answer of a pass does not depend on its memory. -/
theorem Memory.backward_answer (memory memory' : Memory α m) (s : Settings α) (plant : Plant α n m)
    (reference : Trajectory α n m T) : (memory.backward s plant reference).2
      = (memory'.backward s plant reference).2 := by
  obtain ⟨memory'', hsweep⟩ := Pass.sweep_withMemory plant s reference T (Nat.le_refl T)
    (Pass.start plant reference memory') memory
  unfold backward
  dsimp only
  rw [show Pass.start plant reference memory
    = (Pass.start plant reference memory').withMemory memory from rfl, hsweep]
  rfl

namespace Solver

variable {solver solver' : Solver α} {plant : Plant α n m} {reference : Trajectory α n m T}

/-- A pass leaves its solver configured as it was. -/
theorem like_of_backward? {answer : PassAnswer α n m T}
    (h : solver.backward? plant reference = some (solver', answer)) : solver'.Like solver := by
  unfold backward? at h
  split at h
  · cases h
    exact ⟨rfl, rfl⟩
  · cases h

/-- **Passes with solvers that are configured alike have the same answer.** -/
theorem Like.backward? (h : solver.Like solver') :
    (solver.backward? plant reference).map Prod.snd
      = (solver'.backward? plant reference).map Prod.snd := by
  obtain ⟨dimension, s, memory⟩ := solver
  obtain ⟨dimension', s', memory'⟩ := solver'
  obtain ⟨hdimension, hsettings⟩ := h
  dsimp only at hdimension hsettings
  subst hdimension hsettings
  unfold Solver.backward?
  dsimp only
  split
  · exact congrArg some (Memory.backward_answer _ _ s plant reference)
  · rfl

end Solver

/-! ## Passes over arrays -/

/-- What the solver is given at a knot. -/
def KnotArrays.arguments (model : KnotArrays α) (start : Tensor α) : Arguments α where
  hessian := .ok model.controlHessian
  linear := .ok model.controlGradient
  lower := .ok model.lower
  upper := .ok model.upper
  start := .ok start

namespace ArrayPass

variable (p : PlantArrays α) (states controls : Tensor α)

/-- The pass with another solver. -/
def withSolver (pass : ArrayPass α n m T) (solver : Solver α) : ArrayPass α n m T :=
  { pass with solver }

/-- Behind its solve, a knot leaves the solver alone. -/
theorem advance_withSolver (pass : ArrayPass α n m T) (solver : Solver α) (i : Fin T)
    (model : KnotArrays α) (sol : SomeSolution α) :
    (pass.withSolver solver).advance i model sol
      = (fun next => next.withSolver solver) <$> pass.advance i model sol := by
  unfold advance
  simp only [map_bind, map_pure]
  rfl

theorem solver_of_advance {pass next : ArrayPass α n m T} {i : Fin T} {model : KnotArrays α}
    {sol : SomeSolution α} (h : pass.advance i model sol = .ok next) :
    next.solver = pass.solver := by
  have hsame : pass.advance i model sol
      = (fun next => next.withSolver pass.solver) <$> pass.advance i model sol :=
    advance_withSolver pass pass.solver i model sol
  rw [h] at hsame
  have hnext : next = next.withSolver pass.solver := Except.ok.inj hsame
  rw [hnext]
  rfl

/-- The pass after the solve at a knot. -/
def solved (pass : ArrayPass α n m T) (model : KnotArrays α) : ArrayPass α n m T :=
  { pass with
    solver := (pass.solver.solve (model.arguments pass.warmStart)).1
    trace := pass.trace
      ++ (pass.solver.solve (model.arguments pass.warmStart)).2.trace.map PassEvent.solver }

/-- The ways a pass can go over a knot. -/
inductive KnotCase (i : Fin T) (pass : ArrayPass α n m T) :
    ArrayPass α n m T × Option (StepError α) → Prop
  /-- The arrays cannot be combined to a model. -/
  | formless {e : ShapeError}
      (expand : p.expand pass.value (states.column i) (controls.column i) = .error e) :
      KnotCase i pass (pass, some (.shape e))
  /-- The solve fails. -/
  | broken {model : KnotArrays α} {e : Failure α}
      (expand : p.expand pass.value (states.column i) (controls.column i) = .ok model)
      (outcome : (pass.solver.solve (model.arguments pass.warmStart)).2.outcome = .error e) :
      KnotCase i pass (pass.solved model, some (.solver e))
  /-- The gain cannot be made, or the model cannot be moved to the front. -/
  | mismatch {model : KnotArrays α} {sol : SomeSolution α} {e : ShapeError}
      (expand : p.expand pass.value (states.column i) (controls.column i) = .ok model)
      (outcome : (pass.solver.solve (model.arguments pass.warmStart)).2.outcome = .ok sol)
      (advance : (pass.solved model).advance i model sol = .error e) :
      KnotCase i pass (pass.solved model, some (.shape e))
  /-- The pass goes over the knot. -/
  | passed {model : KnotArrays α} {sol : SomeSolution α} {next : ArrayPass α n m T}
      (expand : p.expand pass.value (states.column i) (controls.column i) = .ok model)
      (outcome : (pass.solver.solve (model.arguments pass.warmStart)).2.outcome = .ok sol)
      (advance : (pass.solved model).advance i model sol = .ok next) :
      KnotCase i pass (next, none)

variable {p states controls} {i : Fin T} {pass : ArrayPass α n m T}
  {result : ArrayPass α n m T × Option (StepError α)}

/-- With a model, a knot is its solve and the way from there to the front. -/
theorem knot_of_expand {model : KnotArrays α}
    (h : p.expand pass.value (states.column i) (controls.column i) = .ok model) :
    pass.knot p states controls i =
      match (pass.solver.solve (model.arguments pass.warmStart)).2.outcome with
      | .error e => (pass.solved model, some (.solver e))
      | .ok sol => match (pass.solved model).advance i model sol with
        | .error e => (pass.solved model, some (.shape e))
        | .ok next => (next, none) := by
  unfold knot
  rw [h]
  rfl

/-- **A pass goes over a knot in one of four ways.** -/
theorem knot_cases (p : PlantArrays α) (states controls : Tensor α) (i : Fin T)
    (pass : ArrayPass α n m T) :
    KnotCase p states controls i pass (pass.knot p states controls i) := by
  cases hexpand : p.expand pass.value (states.column i) (controls.column i) with
  | error e =>
    unfold knot
    rw [hexpand]
    exact .formless hexpand
  | ok model =>
    rw [knot_of_expand hexpand]
    split
    · next e houtcome => exact .broken hexpand houtcome
    · next sol houtcome =>
      split
      · next e hadvance => exact .mismatch hexpand houtcome hadvance
      · next hadvance => exact .passed hexpand houtcome hadvance

/-- There is only one way for each pass. -/
theorem KnotCase.eq (h : KnotCase p states controls i pass result) :
    pass.knot p states controls i = result := by
  cases h with
  | formless expand =>
    unfold knot
    rw [expand]
  | broken expand outcome => rw [knot_of_expand expand, outcome]
  | mismatch expand outcome advance =>
    rw [knot_of_expand expand, outcome]
    dsimp only
    rw [advance]
  | passed expand outcome advance =>
    rw [knot_of_expand expand, outcome]
    dsimp only
    rw [advance]

/-- At a knot, a pass leaves its solver configured as it was. -/
theorem KnotCase.like (h : KnotCase p states controls i pass result) :
    result.1.solver.Like pass.solver := by
  cases h with
  | formless expand => exact ⟨rfl, rfl⟩
  | broken expand outcome => exact pass.solver.like_solve _
  | mismatch expand outcome advance => exact pass.solver.like_solve _
  | passed expand outcome advance =>
    dsimp only
    rw [solver_of_advance advance]
    exact pass.solver.like_solve _

/-- A pass with another solver of the same configuration goes the same way, and differs in its
solver only. -/
theorem KnotCase.withSolver {solver : Solver α} (h : KnotCase p states controls i pass result)
    (hlike : solver.Like pass.solver) : ∃ solver' : Solver α, solver'.Like solver ∧
      KnotCase p states controls i (pass.withSolver solver)
        (result.1.withSolver solver', result.2) := by
  have hsolved (model : KnotArrays α) : (pass.withSolver solver).solved model
      = (pass.solved model).withSolver
          (solver.solve (model.arguments pass.warmStart)).1 := by
    unfold solved
    dsimp only [ArrayPass.withSolver]
    rw [hlike.solve]
  cases h with
  | formless expand => exact ⟨solver, ⟨rfl, rfl⟩, .formless expand⟩
  | @broken model e expand outcome =>
    rw [← hlike.solve] at outcome
    refine ⟨(solver.solve (model.arguments pass.warmStart)).1, solver.like_solve _, ?_⟩
    rw [← hsolved]
    exact .broken expand outcome
  | @mismatch model sol e expand outcome advance =>
    rw [← hlike.solve] at outcome
    refine ⟨(solver.solve (model.arguments pass.warmStart)).1, solver.like_solve _, ?_⟩
    rw [← hsolved]
    refine .mismatch expand outcome ?_
    rw [hsolved, advance_withSolver, advance]
    rfl
  | @passed model sol next expand outcome advance =>
    rw [← hlike.solve] at outcome
    refine ⟨(solver.solve (model.arguments pass.warmStart)).1, solver.like_solve _, ?_⟩
    refine .passed expand outcome ?_
    rw [hsolved, advance_withSolver, advance]
    rfl

variable (p states controls)

/-- **A sweep with another solver of the same configuration differs in its solver only.** -/
theorem sweep_withSolver (i : Nat) (hi : i ≤ T) (pass : ArrayPass α n m T) {solver : Solver α}
    (h : solver.Like pass.solver) : ∃ solver' : Solver α,
      (pass.withSolver solver).sweep p states controls i hi
        = ((pass.sweep p states controls i hi).1.withSolver solver',
            (pass.sweep p states controls i hi).2) := by
  induction i generalizing pass solver with
  | zero => exact ⟨solver, rfl⟩
  | succ i ih =>
    have hcase := knot_cases p states controls ⟨i, hi⟩ pass
    obtain ⟨solver', hsolver', hcase'⟩ := hcase.withSolver h
    have hlike := (hsolver'.trans h).trans hcase.like.symm
    unfold sweep
    rw [hcase'.eq]
    generalize pass.knot p states controls ⟨i, hi⟩ = result at hlike ⊢
    obtain ⟨next, failure⟩ := result
    cases failure with
    | none => exact ih (Nat.le_of_succ_le hi) next hlike
    | some e => exact ⟨solver', rfl⟩

/-- **A sweep leaves its solver configured as it was.** -/
theorem like_sweep (i : Nat) (hi : i ≤ T) (pass : ArrayPass α n m T) :
    (pass.sweep p states controls i hi).1.solver.Like pass.solver := by
  induction i generalizing pass with
  | zero => exact ⟨rfl, rfl⟩
  | succ i ih =>
    have hlike := (knot_cases p states controls ⟨i, hi⟩ pass).like
    unfold sweep
    generalize pass.knot p states controls ⟨i, hi⟩ = result at hlike ⊢
    obtain ⟨next, failure⟩ := result
    cases failure with
    | none => exact (ih (Nat.le_of_succ_le hi) next).trans hlike
    | some e => exact hlike

/-- The pass behind the last knot, with the model there. -/
def start (value : ValueArrays α) (solver : Solver α) : ArrayPass α n m T where
  value := value
  warmStart := .ofVector (Vec.zero m)
  solver := solver
  policy := Policy.zero n m T
  trace := #[]

end ArrayPass

namespace PlantArrays

variable (p : PlantArrays α) (n m T : Int)

/-- The states of the reference and the model behind the last knot, if the arrays of the policy can
be made. -/
def behindLast (states : Option (Tensor α)) :
    Except (StepError α) (Tensor α × ValueArrays α) := do
  unless allocatable [m, T] && allocatable [T, m, n] do throw (.shape .mismatch)
  let states ← present states
  let last ← states.column T.toNat
  return (states, ⟨← p.stateCost.dot last, p.stateCost⟩)

/-- A pass is a sweep from behind the last knot. -/
theorem backward_eq (solver : Solver α) (states : Option (Tensor α)) (controls : Tensor α) :
    p.backward n m T solver states controls = (fun behind =>
      (ArrayPass.start behind.2 solver).sweep p behind.1 controls T.toNat (Nat.le_refl _))
        <$> p.behindLast n m T states := by
  unfold backward behindLast
  split
  · simp only [map_bind, map_pure]
    rfl
  · rfl

/-- **A pass with another solver of the same configuration differs in its solver only.** -/
theorem backward_withSolver {solver solver' : Solver α} (h : solver.Like solver')
    (states : Option (Tensor α)) (controls : Tensor α) : ∃ solver'' : Solver α,
      p.backward n m T solver states controls
        = (fun final => (final.1.withSolver solver'', final.2))
          <$> p.backward n m T solver' states controls := by
  rw [backward_eq, backward_eq]
  cases p.behindLast n m T states with
  | error e => exact ⟨solver, rfl⟩
  | ok behind =>
    obtain ⟨solver'', hsweep⟩ := ArrayPass.sweep_withSolver p behind.1 controls T.toNat
      (Nat.le_refl _) (ArrayPass.start (n := n.toNat) (m := m.toNat) behind.2 solver') h
    exact ⟨solver'', congrArg Except.ok hsweep⟩

/-- **A pass leaves its solver configured as it was.** -/
theorem like_backward {solver : Solver α} {states : Option (Tensor α)} {controls : Tensor α}
    {final : ArrayPass α n.toNat m.toNat T.toNat × Option (StepError α)}
    (h : p.backward n m T solver states controls = .ok final) : final.1.solver.Like solver := by
  rw [backward_eq] at h
  cases hbehind : p.behindLast n m T states with
  | error e =>
    rw [hbehind] at h
    cases h
  | ok behind =>
    rw [hbehind] at h
    cases h
    exact ArrayPass.like_sweep p behind.1 controls T.toNat _ _

end PlantArrays

end ProjectedNewton
