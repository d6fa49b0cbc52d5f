import ProjectedNewton.Proofs.Control.Fitting
import ProjectedNewton.Proofs.Control.Interrupted
import ProjectedNewton.Proofs.Control.Step
import ProjectedNewton.Proofs.Solver.Validation

/-!
# Backward passes that fail midway

A pass that fails has changed nothing but its solver: there is no policy, and parameters, states and
controls are as before. Of the solver, only its last solution and its working memory can be others;
the solution is the one of the knot where the gain could not be made, or of the knot behind the one
whose solve failed. What has been reported are the knots behind and the last solve. A later pass
does not see any of this.

Where everything fits together, a pass fails at a knot. A solver of another dimension than that of
the controls already refuses the problem of the last knot, and the policy may be too large for any
knot to be reached.

* `Solver.exists_backward?_memory` is a pass of a plant with a solver of its dimension.
* `PlantArrays.backward_of_dimension` is a pass with another solver.
* `Experiment.StopCase` lists the ways a pass can stop, and `Experiment.Interrupted` says what that
  leaves; `Experiment.interrupted_of_error` is the main result.
-/

namespace ProjectedNewton

variable {α : Type} [Scalar α] {n m T : Nat}

/-! ## A solver of another dimension -/

/-- A Hessian of another size is refused. -/
theorem Solver.solve_of_hessian {solver : Solver α} {arguments : Arguments α} {H : Mat α m m}
    (hH : arguments.hessian = .ok (.ofMatrix H)) (hdim : solver.dimension ≠ m) :
    solver.solve arguments = (solver, ⟨.error (.rejected (.wrongShape .hessian
      [solver.dimension, solver.dimension])), #[]⟩) := by
  have hshape : [m, m] ≠ [solver.dimension, solver.dimension] := by
    intro h
    exact hdim (List.cons_eq_cons.mp h).1.symm
  refine solve_of_errorOf_check ?_
  unfold Arguments.check Argument.inShape Tensor.inShape?
  rw [hH]
  dsimp only [Tensor.ofMatrix]
  rw [dif_neg hshape]
  rfl

/-- A pass with a solver of another dimension does not get over a knot. -/
theorem ArrayPass.knot_of_dimension (plant : Plant α n m) {V : ValueModel α n} {x : Vec α n}
    {u : Vec α m} {states controls : Tensor α} {pass : ArrayPass α n m T} {i : Fin T}
    (hvalue : pass.value = .ofModel V) (hx : states.column i = .ok (.ofVector x))
    (hu : controls.column i = .ok (.ofVector u)) (hdim : pass.solver.dimension ≠ m) :
    pass.knot (.ofPlant plant) states controls i = (pass, some (.solver (.rejected
      (.wrongShape .hessian [pass.solver.dimension, pass.solver.dimension])))) := by
  let model : KnotArrays α :=
    .ofModel (plant.expand V x u) (plant.lower.sub u) (plant.upper.sub u)
  have hexpand : (PlantArrays.ofPlant plant).expand pass.value (states.column i)
      (controls.column i) = .ok model := by
    rw [hvalue, hx, hu]
    exact PlantArrays.expand_ofPlant plant V x u
  have hsolve : pass.solver.solve (model.arguments pass.warmStart) = (pass.solver,
      ⟨.error (.rejected (.wrongShape .hessian [pass.solver.dimension, pass.solver.dimension])),
        #[]⟩) := Solver.solve_of_hessian rfl hdim
  have hsolved : pass.solved model = pass := by
    unfold solved
    rw [hsolve]
    dsimp only
    rw [Array.map_empty, Array.append_empty]
  have hcase := KnotCase.broken hexpand (congrArg (fun r => r.2.outcome) hsolve)
  rw [hsolved] at hcase
  exact hcase.eq

namespace PlantArrays

/-- The arrays of a policy for these sizes can be made. -/
def Makes (n m T : Nat) : Prop :=
  (allocatable [(m : Int), (T : Int)] && allocatable [(T : Int), (m : Int), (n : Int)]) = true

/-- The model behind the last knot is that of the plant. -/
theorem behindLast_ofPlant (plant : Plant α n m) (reference : Trajectory α n m T)
    (hmakes : Makes n m T) :
    (ofPlant plant).behindLast n m T (some (.ofMatrix (Mat.transpose reference.states)))
      = .ok (.ofMatrix (Mat.transpose reference.states),
          .ofModel (plant.terminal (reference.state (Fin.last T)))) := by
  have hlast : (Tensor.ofMatrix (Mat.transpose reference.states)).column (T : Int).toNat
      = .ok (.ofVector (reference.state (Fin.last T))) :=
    Tensor.column_transpose reference.states (Fin.last T)
  have hgradient : (ofPlant plant).stateCost.dot (.ofVector (reference.state (Fin.last T)))
      = .ok (.ofVector (plant.terminal (reference.state (Fin.last T))).gradient) :=
    Tensor.ofMatrix_dot_ofVector _ _
  unfold Makes at hmakes
  unfold behindLast present
  dsimp only [Option.elim_some]
  rw [if_pos hmakes]
  dsimp only [bind, Except.bind]
  rw [hlast]
  dsimp only [liftM, monadLift, MonadLift.monadLift, Except.mapError]
  rw [hgradient]
  rfl

/-- Without the arrays of the policy there is no pass. -/
theorem behindLast_of_not_makes (p : PlantArrays α) (hmakes : ¬Makes n m T)
    (states : Option (Tensor α)) :
    p.behindLast n m T states = .error (.shape .mismatch) := by
  unfold Makes at hmakes
  unfold behindLast
  dsimp only
  rw [if_neg hmakes]
  rfl

/-- **A pass with a solver of another dimension does not get over the last knot**, if there is one.
-/
theorem backward_of_dimension (plant : Plant α n m) (reference : Trajectory α n m T)
    {solver : Solver α} (hmakes : Makes n m T) (hdim : solver.dimension ≠ m) :
    (ofPlant plant).backward n m T solver (some (.ofMatrix (Mat.transpose reference.states)))
        (.ofMatrix (Mat.transpose reference.controls))
      = .ok (ArrayPass.start (.ofModel (plant.terminal (reference.state (Fin.last T)))) solver,
          if T = 0 then none else some (.solver (.rejected (.wrongShape .hessian
            [solver.dimension, solver.dimension])))) := by
  rw [backward_eq, behindLast_ofPlant plant reference hmakes]
  cases T with
  | zero => rfl
  | succ T =>
    -- The sweep goes from the last knot, which is knot `T` here, and stops at once.
    let start : ArrayPass α n m (T + 1) :=
      .start (.ofModel (plant.terminal (reference.state (Fin.last (T + 1))))) solver
    have hvalue : start.value
      = .ofModel (plant.terminal (reference.state (Fin.last (T + 1)))) := rfl
    have hknot : start.knot (ofPlant plant) (.ofMatrix (Mat.transpose reference.states))
        (.ofMatrix (Mat.transpose reference.controls)) ⟨T, Nat.lt_succ_self T⟩
          = (start, some (.solver (.rejected (.wrongShape .hessian
              [solver.dimension, solver.dimension])))) :=
      ArrayPass.knot_of_dimension plant hvalue
        (Tensor.column_transpose reference.states (Fin.last T).castSucc)
        (Tensor.column_transpose reference.controls (Fin.last T)) hdim
    show Except.ok (start.sweep _ _ _ (T + 1) _) = _
    unfold ArrayPass.sweep
    rw [hknot, if_neg T.succ_ne_zero]

end PlantArrays

/-! ## A solver of the right dimension -/

/-- A pass with a solver of the right dimension is one with its memory. -/
theorem Solver.exists_backward?_memory {solver : Solver α} (hdim : solver.dimension = m)
    (plant : Plant α n m) (reference : Trajectory α n m T) :
    ∃ (memory : Memory α m) (solver' : Solver α), memory.solution = solver.solution ∧
      solver.backward? plant reference
        = some (solver', (memory.backward solver.settings plant reference).2) ∧
      solver'.solution = (memory.backward solver.settings plant reference).1.solution := by
  obtain ⟨dimension, s, memory⟩ := solver
  dsimp only at hdim
  subst hdim
  refine ⟨memory, ⟨dimension, s, (memory.backward s plant reference).1⟩, rfl, ?_, rfl⟩
  unfold backward?
  dsimp only
  rw [dif_pos rfl]

namespace Experiment

variable (e : Experiment)

/-- The ways a step can stop whose arrays fit together, with the error, the solution that the solver
has kept, and what has been reported. -/
inductive StopCase (size : SizedPlant)
    (reference : Trajectory Float size.stateSize size.controlSize size.horizon) :
    StepError Float → Option (SomeSolution Float) → Array (PassEvent Float) → Prop
  /-- The pass has stopped at a knot. -/
  | stopped {i : Fin size.horizon}
      {policy : Policy Float size.stateSize size.controlSize size.horizon}
      {error : PassError Float} {kept : Option (SomeSolution Float)}
      {trace : Array (PassEvent Float)}
      (dimension : e.parameters.solver.dimension = size.controlSize)
      (stopped : size.plant.StoppedAt e.parameters.solver.settings reference policy
        e.parameters.solver.solution i error kept trace) :
      StopCase size reference error.stepError kept trace
  /-- A solver of another dimension has refused the problem of the last knot. -/
  | refused (dimension : e.parameters.solver.dimension ≠ size.controlSize)
      (knots : size.horizon ≠ 0) :
      StopCase size reference (.solver (.rejected (.wrongShape .hessian
          [e.parameters.solver.dimension, e.parameters.solver.dimension])))
        e.parameters.solver.solution #[]
  /-- The arrays of the policy cannot be made, and no knot has been reached. -/
  | unmade (makes : ¬PlantArrays.Makes size.stateSize size.controlSize size.horizon) :
      StopCase size reference (.shape .mismatch) e.parameters.solver.solution #[]

/-- What a step that fails leaves behind. -/
structure Interrupted (error : StepError Float) (after : AfterBackward) : Prop where
  stop {size : SizedPlant}
    {reference : Trajectory Float size.stateSize size.controlSize size.horizon} :
    e.Fits size reference → e.StopCase size reference error after.solver.solution after.trace
  /-- There is no policy, and parameters, states and controls are as before. -/
  kept : after.experiment = e.withSolver after.solver
  configuration : after.solver.Like e.parameters.solver
  /-- Whatever a later step does, it does as if the failed one had not been taken. -/
  later (other : Experiment) : ∃ solver : Solver Float,
    (other.withSolver after.solver).backward
      = (other.withSolver e.parameters.solver).backward.withSolver solver

variable {e} {size : SizedPlant}
  {reference : Trajectory Float size.stateSize size.controlSize size.horizon}
  {error : StepError Float}

/-- A step over arrays with a solver of another dimension stops at the last knot or before it. -/
theorem stopCase_backwardArrays (hfit : e.Fits size reference)
    (hdim : e.parameters.solver.dimension ≠ size.controlSize)
    (h : e.backwardArrays.error? = some error) :
    e.StopCase size reference error e.backwardArrays.solver.solution e.backwardArrays.trace := by
  obtain ⟨hn, hm, hT, harrays⟩ := Parameters.sizedPlant?_eq_some_iff.mp hfit.plant
  obtain ⟨hstates, hcontrols⟩ := trajectory?_eq_some_iff.mp hfit.reference
  obtain ⟨⟨timeStep, horizon, stateSize, controlSize, arrays, solver⟩, start, controls, states,
    feedforward, feedback⟩ := e
  obtain ⟨n, m, T, plant⟩ := size
  dsimp only at hn hm hT harrays hstates hcontrols hdim reference
  subst hn hm hT harrays hstates hcontrols
  unfold backwardArrays at h ⊢
  dsimp only at h ⊢
  by_cases hmakes : PlantArrays.Makes n m T
  · rw [PlantArrays.backward_of_dimension plant reference hmakes hdim] at h ⊢
    by_cases hT : T = 0
    · rw [if_pos hT] at h
      cases h
    · rw [if_neg hT] at h ⊢
      cases h
      exact .refused hdim hT
  · rw [PlantArrays.backward_eq, PlantArrays.behindLast_of_not_makes _ hmakes] at h ⊢
    cases h
    exact .unmade hmakes

/-- A step that fails has stopped in one of these ways. -/
theorem stopCase_of_error (hfit : e.Fits size reference)
    (h : e.backward.error? = some error) :
    e.StopCase size reference error e.backward.solver.solution e.backward.trace := by
  by_cases hdim : e.parameters.solver.dimension = size.controlSize
  · obtain ⟨memory, solver, hbefore, hpass, hafter⟩ :=
      Solver.exists_backward?_memory hdim size.plant reference
    have hbackward : e.backward = e.answered solver
        (memory.backward e.parameters.solver.settings size.plant reference).2 := by
      unfold backward
      rw [hfit.fittingBackward?, hpass]
      rfl
    rw [hbackward] at h ⊢
    rw [solver_answered, hafter]
    unfold answered at h ⊢
    cases houtcome :
        (memory.backward e.parameters.solver.settings size.plant reference).2.outcome with
    | ok policy =>
      rw [houtcome] at h
      cases h
    | error failure =>
      rw [houtcome] at h
      cases h
      obtain ⟨i, policy, hstopped⟩ := Memory.stoppedAt_of_backward houtcome
      rw [hbefore] at hstopped
      exact .stopped hdim hstopped
  · have hnone : e.parameters.solver.backward? size.plant reference = none := by
      unfold Solver.backward?
      exact dif_neg hdim
    have hbackward : e.backward = e.backwardArrays := by
      unfold backward
      rw [hfit.fittingBackward?, hnone]
      rfl
    rw [hbackward] at h ⊢
    exact stopCase_backwardArrays hfit hdim h

/-- **A backward pass that fails midway leaves nothing but its solver's last solution**, and a later
pass does what it would have done without it. -/
theorem interrupted_of_error (h : e.backward.error? = some error) :
    e.Interrupted error e.backward where
  stop := fun hfit => stopCase_of_error hfit h
  kept := (backward_of_error h).1
  configuration := (backward_of_error h).2
  later := fun other => (other.withSolver e.parameters.solver).backward_withSolver
    (backward_of_error h).2

end Experiment

/-! ## A pass that fails at the first of two knots -/

/-- A plant that doubles its state, and whose states earn something: at the last knot less than a
control costs, in front of it more. -/
def Plant.runaway : Plant Float 1 1 where
  stateMap := #v[#v[2]]
  controlMap := #v[#v[1]]
  stateCost := #v[#v[-1]]
  controlCost := #v[#v[2]]
  lower := #v[-1]
  upper := #v[1]

/-- Two knots at rest. -/
def Trajectory.rest : Trajectory Float 1 1 2 where
  states := #v[#v[0], #v[0], #v[0]]
  controls := #v[#v[0], #v[0]]

namespace Experiment

def runaway : Experiment where
  parameters := {
    timeStep := 1
    horizon := 2
    stateSize := 1
    controlSize := 1
    arrays := .ofPlant Plant.runaway
    solver := .fresh 1 Settings.standard }
  start := .ofVector (Trajectory.rest.state 0)
  controls := .ofMatrix (Mat.transpose Trajectory.rest.controls)
  states := some (.ofMatrix (Mat.transpose Trajectory.rest.states))

theorem fits_runaway : runaway.Fits ⟨1, 1, 2, Plant.runaway⟩ Trajectory.rest where
  plant := Parameters.sizedPlant?_eq_some_iff.mpr ⟨rfl, rfl, rfl, rfl⟩
  reference := trajectory?_eq_some_iff.mpr ⟨rfl, rfl⟩

/-- The last knot is passed, and its solution and events are what is left of the pass. -/
theorem interrupted_runaway : ∃ error, runaway.backward.error? = some error ∧
    runaway.Interrupted error runaway.backward ∧
    runaway.StopCase ⟨1, 1, 2, Plant.runaway⟩ Trajectory.rest error
      runaway.backward.solver.solution runaway.backward.trace ∧
    runaway.backward.solver.solution.isSome ∧ runaway.backward.trace.size = 2 := by
  have hfails : runaway.backward.error?.isSome := by decide +kernel
  obtain ⟨error, herror⟩ := Option.isSome_iff_exists.mp hfails
  have hinterrupted := interrupted_of_error herror
  exact ⟨error, herror, hinterrupted, hinterrupted.stop fits_runaway, by decide +kernel,
    by decide +kernel⟩

end Experiment

end ProjectedNewton
