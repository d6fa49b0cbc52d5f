import ProjectedNewton.Control.Experiment
import ProjectedNewton.Proofs.Control.Reuse

/-!
# Backward steps of an experiment

A backward step is a pass of the plant if everything fits together, and else a pass over arrays. In
both cases it leaves the experiment with a policy if it succeeds, and as it was if it fails, but for
the solver. Like a pass, a step does not see what its solver was used for.

* `Experiment.Fits` says that everything fits together, and `Experiment.Fits.fittingBackward?` that
  the step is then a pass of the plant.
* `Experiment.backward_withSolver` compares steps with solvers that are configured alike.
* `Experiment.StepCase` lists what a step can leave, and `Experiment.backward_of_error` says what
  this is if it fails.
-/

namespace ProjectedNewton

namespace Experiment

/-! ## Steps where everything fits together -/

/-- The step with another solver after it. -/
def AfterBackward.withSolver (after : AfterBackward) (solver : Solver Float) : AfterBackward :=
  { after with experiment := after.experiment.withSolver solver }

/-- The solver after the step. -/
def AfterBackward.solver (after : AfterBackward) : Solver Float :=
  after.experiment.parameters.solver

variable (e : Experiment)

/-- The step that a pass with the solver comes to. -/
def answered {n m T : Nat} (solver : Solver Float) (answer : PassAnswer Float n m T) :
    AfterBackward :=
  match answer.outcome with
  | .ok policy => ⟨(e.withSolver solver).withPolicy policy, answer.trace, none⟩
  | .error error => ⟨e.withSolver solver, answer.trace, some error.stepError⟩

/-- The arrays of the experiment fit together to a plant and a reference. -/
structure Fits (size : SizedPlant)
    (reference : Trajectory Float size.stateSize size.controlSize size.horizon) : Prop where
  plant : e.parameters.sizedPlant? = some size
  reference : e.trajectory? size.stateSize size.controlSize size.horizon = some reference

variable {e} {size : SizedPlant}
  {reference : Trajectory Float size.stateSize size.controlSize size.horizon}

theorem Fits.withSolver (h : e.Fits size reference) (solver : Solver Float) :
    (e.withSolver solver).Fits size reference :=
  ⟨h.plant, h.reference⟩

/-- Where everything fits together, the step is a pass of the plant. -/
theorem Fits.fittingBackward? (h : e.Fits size reference) :
    e.fittingBackward? = (e.parameters.solver.backward? size.plant reference).map
      fun next => e.answered next.1 next.2 := by
  unfold Experiment.fittingBackward?
  rw [h.plant]
  dsimp only [bind, Option.bind]
  rw [h.reference]
  dsimp only
  cases e.parameters.solver.backward? size.plant reference with
  | none => rfl
  | some next =>
    obtain ⟨solver, answer⟩ := next
    dsimp only [Option.map_some, answered]
    cases answer.outcome with
    | ok policy => rfl
    | error error => rfl

theorem answered_withSolver {n m T : Nat} (solver solver' solver'' : Solver Float)
    (answer : PassAnswer Float n m T) : (e.withSolver solver).answered solver' answer
      = (e.answered solver'' answer).withSolver solver' := by
  unfold answered
  cases answer.outcome with
  | ok policy => rfl
  | error error => rfl

theorem solver_answered {n m T : Nat} (solver : Solver Float) (answer : PassAnswer Float n m T) :
    (e.answered solver answer).solver = solver := by
  unfold answered
  cases answer.outcome with
  | ok policy => rfl
  | error error => rfl

/-- Where something does not fit, there is no such pass. -/
theorem fittingBackward?_eq_none (h : ¬∃ size reference, e.Fits size reference) :
    e.fittingBackward? = none := by
  unfold fittingBackward?
  cases hsize : e.parameters.sizedPlant? with
  | none => rfl
  | some size =>
    dsimp only [bind, Option.bind]
    cases hreference : e.trajectory? size.stateSize size.controlSize size.horizon with
    | none => rfl
    | some reference => exact absurd ⟨size, reference, hsize, hreference⟩ h

variable (e)

/-! ## Steps with another solver -/

/-- A step where everything fits differs in its solver only, if that is another one of the same
configuration. -/
theorem fittingBackward?_withSolver {solver : Solver Float} (h : solver.Like e.parameters.solver) :
    ∃ solver' : Solver Float, (e.withSolver solver).fittingBackward?
      = e.fittingBackward?.map fun after => after.withSolver solver' := by
  by_cases hfit : ∃ size reference, e.Fits size reference
  · obtain ⟨size, reference, hfit⟩ := hfit
    have hanswer : (solver.backward? size.plant reference).map Prod.snd
        = (e.parameters.solver.backward? size.plant reference).map Prod.snd := h.backward?
    rw [hfit.fittingBackward?, (hfit.withSolver solver).fittingBackward?]
    dsimp only [Experiment.withSolver]
    cases hpass : solver.backward? size.plant reference with
    | none =>
      rw [hpass] at hanswer
      rw [Option.map_eq_none_iff.mp hanswer.symm]
      exact ⟨solver, rfl⟩
    | some next =>
      rw [hpass] at hanswer
      obtain ⟨next', hpass', hnext⟩ := Option.map_eq_some_iff.mp hanswer.symm
      refine ⟨next.1, ?_⟩
      rw [hpass', Option.map_some, Option.map_some, hnext]
      exact congrArg some (answered_withSolver solver next.1 next'.1 next.2)
  · have hother : ¬∃ size reference, (e.withSolver solver).Fits size reference := by
      rintro ⟨size, reference, hfits⟩
      exact hfit ⟨size, reference, hfits.withSolver e.parameters.solver⟩
    rw [fittingBackward?_eq_none hfit, fittingBackward?_eq_none hother]
    exact ⟨solver, rfl⟩

/-- So does a step over arrays, whether or not it fits together. -/
theorem backwardArrays_withSolver {solver : Solver Float} (h : solver.Like e.parameters.solver) :
    ∃ solver' : Solver Float, (e.withSolver solver).backwardArrays
      = e.backwardArrays.withSolver solver' := by
  obtain ⟨solver', hpass⟩ := e.parameters.arrays.backward_withSolver e.parameters.stateSize
    e.parameters.controlSize e.parameters.horizon h e.states e.controls
  unfold backwardArrays
  dsimp only [withSolver]
  rw [hpass]
  cases e.parameters.arrays.backward e.parameters.stateSize e.parameters.controlSize
      e.parameters.horizon e.parameters.solver e.states e.controls with
  | error error => exact ⟨solver, rfl⟩
  | ok final =>
    obtain ⟨pass, failure⟩ := final
    cases failure with
    | none => exact ⟨solver', rfl⟩
    | some error => exact ⟨solver', rfl⟩

/-- **A step with another solver of the same configuration differs in its solver only.** -/
theorem backward_withSolver {solver : Solver Float} (h : solver.Like e.parameters.solver) :
    ∃ solver' : Solver Float,
      (e.withSolver solver).backward = e.backward.withSolver solver' := by
  obtain ⟨solver', hfitting⟩ := e.fittingBackward?_withSolver h
  obtain ⟨solver'', harrays⟩ := e.backwardArrays_withSolver h
  unfold backward
  rw [hfitting, harrays]
  cases e.fittingBackward? with
  | none => exact ⟨solver'', rfl⟩
  | some after => exact ⟨solver', rfl⟩

/-! ## What a step leaves -/

/-- What a step can leave, with a solver that is configured as before. -/
inductive StepCase : AfterBackward → Prop
  /-- A policy beside the rest of the experiment. -/
  | passed {n m T : Nat} {solver : Solver Float} (policy : Policy Float n m T)
      (trace : Array (PassEvent Float)) (like : solver.Like e.parameters.solver) :
      StepCase ⟨(e.withSolver solver).withPolicy policy, trace, none⟩
  /-- Nothing but the solver, with an error. -/
  | failed {solver : Solver Float} (trace : Array (PassEvent Float)) (error : StepError Float)
      (like : solver.Like e.parameters.solver) :
      StepCase ⟨e.withSolver solver, trace, some error⟩

theorem stepCase_answered {n m T : Nat} {solver : Solver Float} (answer : PassAnswer Float n m T)
    (h : solver.Like e.parameters.solver) : e.StepCase (e.answered solver answer) := by
  unfold answered
  cases answer.outcome with
  | ok policy => exact .passed policy answer.trace h
  | error error => exact .failed answer.trace error.stepError h

theorem stepCase_backwardArrays : e.StepCase e.backwardArrays := by
  unfold backwardArrays
  dsimp only
  split
  · next error _ => exact .failed #[] error ⟨rfl, rfl⟩
  · next pass hpass =>
    exact .passed pass.policy pass.trace (PlantArrays.like_backward _ _ _ _ hpass)
  · next pass error hpass =>
    exact .failed pass.trace error (PlantArrays.like_backward _ _ _ _ hpass)

/-- **A step leaves a policy, or nothing but its solver.** -/
theorem backward_cases : e.StepCase e.backward := by
  unfold backward
  by_cases hfit : ∃ size reference, e.Fits size reference
  · obtain ⟨size, reference, hfit⟩ := hfit
    rw [hfit.fittingBackward?]
    cases hpass : e.parameters.solver.backward? size.plant reference with
    | none => exact e.stepCase_backwardArrays
    | some next =>
      exact e.stepCase_answered next.2 (Solver.like_of_backward? hpass)
  · rw [fittingBackward?_eq_none hfit]
    exact e.stepCase_backwardArrays

variable {e}

/-- **A step that fails leaves the experiment as it was**, but for the solver, which is configured
as before. -/
theorem backward_of_error {error : StepError Float} (h : e.backward.error? = some error) :
    e.backward.experiment = e.withSolver e.backward.solver ∧
      e.backward.solver.Like e.parameters.solver := by
  have hcase := e.backward_cases
  generalize e.backward = after at h hcase ⊢
  cases hcase with
  | passed policy trace like => cases h
  | failed trace error like => exact ⟨rfl, like⟩

end Experiment

end ProjectedNewton
