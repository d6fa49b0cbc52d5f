import ProjectedNewton.Proofs.Session.Reuse
import ProjectedNewton.Proofs.Solver.Atomic

/-!
# The configuration of a solver in use

However a solver was made and whatever it was asked since, its configuration is valid: no request
can lead out of the ranges that are checked. This is a matter of the checks alone. A value that
passes is in its range after it is rounded, too, and a comparison with NaN does not pass.

* `Solver.Valid` is what holds in every state, `Session.valid_run` that it does.
* `Session.configuration_sound` is the main result, with what one assignment does and how the first
  assignments are made.
-/

namespace ProjectedNewton

open Scalar

/-- The vectors of a working memory. -/
def Workspace.vectors {α : Type} {n : Nat} (w : Workspace α n) : List (Vec α n) :=
  [w.iterate, w.candidate, w.gradient, w.direction]

/-- A solver with a configuration in its ranges, and working memory that fits. -/
structure Solver.Valid (solver : Solver Float) : Prop extends solver.Configured where
  numbers : isNaN solver.settings.acceptStepThreshold = false ∧
    isNaN solver.settings.gradThreshold = false ∧ isNaN solver.settings.regularization = false
  lengths : ∀ v ∈ solver.workspace.vectors, v.toArray.size = solver.dimension

theorem Solver.Configured.valid {solver : Solver Float} (h : solver.Configured) :
    solver.Valid where
  toConfigured := h
  numbers := ⟨(LawfulScalar.isNaN_of_lt h.admissible.acceptStepThreshold_pos).2,
    (isNaN_of_le h.admissible.gradThreshold_nonneg).2,
    (isNaN_of_le h.admissible.regularization_nonneg).2⟩
  lengths v _ := v.size_toArray

namespace Session

theorem valid_run {dimension : Datum} {options : List (String × Datum)} {solver : Solver Float}
    (h : Solver.ofOptions dimension options = .ok solver) (requests : List Request) :
    (run { solver := solver } requests).1.solver.Valid :=
  (configured_run (Solver.configured_of_ofOptions h).1 requests).valid

/-- **Every reachable configuration is valid, assignments are atomic, and a new solver checks its
arguments in order.** -/
theorem configuration_sound (dimension : Datum) (options : List (String × Datum)) :
    (∀ solver, Solver.ofOptions dimension options = .ok solver → ∀ requests,
      (run { solver := solver } requests).1.solver.Valid) ∧
    (∀ (solver : Solver Float) (s : Setting) (d : Datum), s.Allocatable d →
      solver.Atomic s d (solver.set d (.ofName s.name))) ∧
    (Setting.dimension.Allocatable dimension →
      (∀ name ∈ options.map Prod.fst, name ∈ Solver.optional.map Setting.name) →
      Solver.Checked (Solver.arguments dimension fun s => options.lookup s.name)
        (.fresh 1 .standard) Setting.all (Solver.ofOptions dimension options)) := by
  refine ⟨?_, ?_, ?_⟩
  · intro solver hsolver requests
    exact valid_run hsolver requests
  · intro solver s d hsize
    exact Solver.atomic_set hsize
  · intro hsize hnames
    exact Solver.checked_ofOptions hsize hnames

/-- Assignments that fail and succeed in turn. -/
def reconfigured : List Request :=
  [.set "nx" (.ok (.int 0)), .set "nx" (.ok (.int 3)),
    .set "accept_step_threshold" (.ok (.bool true)), .set "grad_threshold" (.ok (.bool true)),
    .set "regularization" (.ok (.real (0.0 / 0.0))), .set "max_iterations" (.ok (.int 0))]

theorem allocatable_int {k : ℕ} (h : k < Solver.dimensionLimit) :
    Setting.dimension.Allocatable (.int k) := by
  rintro - _ ⟨⟩
  exact Int.ofNat_lt.mpr h

/-- The last assignment of each setting that is admitted decides; and of two bad arguments, the
dimension is the one that is reported. -/
theorem configuration_sound_reconfigured :
    Solver.ofOptions (.int 2) [] = .ok (.fresh 2 .standard) ∧
    (run { solver := .fresh 2 .standard } reconfigured).1.solver.Valid ∧
    (run { solver := .fresh 2 .standard } reconfigured).1.solver.dimension = 3 ∧
    Setting.dimension.Allocatable (.int 3) ∧
    (Solver.fresh 2 .standard).Atomic .dimension (.int 3)
      ((Solver.fresh 2 .standard).set (.int 3) (.ofName Setting.dimension.name)) ∧
    Setting.dimension.Allocatable (.int 0) ∧
    Solver.Checked
      (Solver.arguments (.int 0) fun s => [("max_iterations", Datum.null)].lookup s.name)
      (.fresh 1 .standard) Setting.all (Solver.ofOptions (.int 0) [("max_iterations", .null)]) ∧
    Solver.ofOptions (.int 0) [("max_iterations", .null)]
      = .error (.rejected (.outOfRange .dimension)) := by
  have hnew : Solver.ofOptions (.int 2) [] = .ok (.fresh 2 .standard) := rfl
  have hthree : Setting.dimension.Allocatable (.int 3) := allocatable_int (k := 3) (by decide)
  have hzero : Setting.dimension.Allocatable (.int 0) := allocatable_int (k := 0) (by decide)
  refine ⟨hnew, (configuration_sound (.int 2) []).1 _ hnew reconfigured, ?_, hthree,
    (configuration_sound (.int 2) []).2.1 _ _ _ hthree, hzero,
    (configuration_sound (.int 0) [("max_iterations", .null)]).2.2 hzero ?_, ?_⟩
  · rfl
  · decide
  · rfl

end Session

end ProjectedNewton
