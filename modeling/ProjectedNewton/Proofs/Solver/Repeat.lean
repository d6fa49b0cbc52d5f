import ProjectedNewton.Proofs.Exact.Factorization
import ProjectedNewton.Proofs.Run.Provenance
import ProjectedNewton.Proofs.Scalar.Double
import ProjectedNewton.Proofs.Solver.Budget

/-!
# Solving again from a solution

A solve that starts where another one has converged stops in its first iteration, with the same
point, partition and status, since the tests of an iteration depend on the point alone. What is new
is the inverse. A first iteration factorizes before it stops, so that the inverse always belongs to
the returned partition, while that of the first solve may have been made in the iteration before.

This factorization is the only thing that can fail. If the first solve has made it too, then it has
not failed. So it can fail only after a solve that has stopped on a flat gradient in a later
iteration, with free coordinates. `Problem.bend 4` is such a case: the coordinate that the last step
has freed adds a direction without curvature. `Problem.steep` is another one, in doubles: there the
matrix is positive definite and has a factor, but the factor is taken to be singular.

* `Run.outcome_eq_stoppedAt`: where an iteration has stopped, a new run stops at once.
* `Run.late_of_singular`: in which iterations it can have stopped without the factorization.
* `Problem.Repeats` says what solves from a solution come to.
* `Solver.repeats_of_returns` is the main result.
-/

namespace ProjectedNewton

variable {α : Type} [Scalar α] {n : Nat} {p : Problem α n} {s : Settings α} {m : Nat}

/-! ## The first iteration of the second run -/

namespace Run

variable {r q : Run α n} {status : Status}

/-- **Where an iteration has stopped, a new run stops at once**, with a factorization of its own. -/
theorem outcome_eq_stoppedAt (h : r.step p s = .stopped q status)
    (hx : p.project r.workspace.iterate = r.workspace.iterate) (hm : m ≠ 0) :
    p.outcome s r.workspace.iterate m = p.stoppedAt s r.workspace.iterate status := by
  have hcase : StepCase p s r (r.step p s) := step_cases p s r
  rw [h] at hcase
  cases hcase with
  | stopsFirst stops first factored => exact Problem.outcome_of_stopStatus? hx hm stops
  | stopsLater stops later => exact Problem.outcome_of_stopStatus? hx hm stops
  | short goesOn factored small =>
    rw [Problem.outcome_of_short hx hm goesOn factored small]
    unfold Problem.stoppedAt
    rw [Problem.factorizeAt_eq_ok factored]

/-- An iteration that has stopped where no factorization can be made is a later one, and the
gradient is flat there. -/
theorem late_of_singular (h : r.step p s = .stopped q status)
    (hF : p.factorizeAt? s r.workspace.iterate = none) :
    r.iterations ≠ 0 ∧ status = .gradient := by
  have hcase : StepCase p s r (r.step p s) := step_cases p s r
  rw [h] at hcase
  cases hcase with
  | stopsFirst stops first factored =>
    rw [hF] at factored
    cases factored
  | stopsLater stops later => exact ⟨later, Problem.status_eq_gradient_of_singular stops hF⟩
  | short goesOn factored small =>
    rw [hF] at factored
    cases factored

end Run

/-! ## The second solve -/

/-- What a solve comes to that starts at the point of a solution `S`, with a budget of `m`
iterations and with any history of the solver. -/
structure Problem.Repeats (p : Problem α n) (s : Settings α) (S : Solution α n) (m : Nat) :
    Prop where
  /-- It returns the same after one iteration, with an inverse that was made for the returned
  partition, or it fails in making that inverse. -/
  outcome (memory : Memory α n) :
    (∃ inverse, p.InverseFor s S.partition inverse ∧
      Solver.Returns ⟨n, { s with maxIterations := m }, memory⟩ p S.x
        { S with inverse := inverse, iterations := 1 }) ∨
    ∃ e, e.Concerns S.partition.free.length s.regularization ∧
      p.factorizeFree S.partition s.regularization = .error e ∧
      Solver.Breaks ⟨n, { s with maxIterations := m }, memory⟩ p S.x e
  /-- It fails only if the solution was found in a later iteration, on a flat gradient and with free
  coordinates. -/
  late {memory : Memory α n} {e : FactorizationError α} :
    Solver.Breaks ⟨n, { s with maxIterations := m }, memory⟩ p S.x e →
      2 ≤ S.iterations ∧ S.status = .gradient ∧ S.partition.free ≠ []

section Converged

variable {start : Vec α n} {S : Solution α n}
  (hproject : ∀ x, p.project (p.project x) = p.project x)
  (h : Ending (Workspace.fresh n) s p start S) (hstatus : S.status ≠ .maxIterations) (hm : m ≠ 0)
include hproject h hstatus hm

/-- A new run from a converged solution stops at its point, and the solution was found late if this
is where it cannot factorize. -/
theorem Ending.outcome_eq_stoppedAt : p.outcome s S.x m = p.stoppedAt s S.x S.status ∧
    (p.factorizeAt? s S.x = none → 2 ≤ S.iterations ∧ S.status = .gradient) := by
  cases h with
  | idle budget => exact absurd rfl hstatus
  | exhausted budget reached goesOn => exact absurd rfl hstatus
  | @stopped k r q status budget reached stops =>
    have hx : q.workspace.iterate = r.workspace.iterate := (Run.fields_of_stopped stops).1
    show p.outcome s q.workspace.iterate m = p.stoppedAt s q.workspace.iterate status ∧
      (p.factorizeAt? s q.workspace.iterate = none → 2 ≤ q.iterations ∧ status = .gradient)
    rw [hx]
    refine ⟨Run.outcome_eq_stoppedAt stops ?_ hm, ?_⟩
    · exact Problem.project_eq_of_reaches hproject ⟨r, reached, rfl⟩
    · intro hF
      obtain ⟨hlater, hgradient⟩ := Run.late_of_singular stops hF
      have hcount : q.iterations = r.iterations + 1 := Run.iterations_of_stopped stops
      exact ⟨by omega, hgradient⟩

/-- A solve that starts at a converged solution and fails does so on its free coordinates. -/
theorem Ending.singular_of_breaks {memory : Memory α n} {e : FactorizationError α}
    (hbreaks : Solver.Breaks ⟨n, { s with maxIterations := m }, memory⟩ p S.x e) :
    p.factorizeAt s S.x = .error e := by
  rw [Problem.breaks_withBudget, (h.outcome_eq_stoppedAt hproject hstatus hm).1] at hbreaks
  unfold Problem.stoppedAt at hbreaks
  cases hF : p.factorizeAt s S.x with
  | error e' =>
    rw [hF] at hbreaks
    cases hbreaks
    rfl
  | ok F =>
    rw [hF] at hbreaks
    cases hbreaks

theorem Ending.repeats : p.Repeats s S m := by
  obtain ⟨houtcome, hlate⟩ := h.outcome_eq_stoppedAt hproject hstatus hm
  obtain ⟨hpart, -⟩ := h.converged hstatus
  constructor
  · intro memory
    simp only [Problem.breaks_withBudget, Problem.returns_withBudget, houtcome]
    rw [hpart]
    unfold Problem.stoppedAt
    cases hF : p.factorizeAt s S.x with
    | error e => exact Or.inr ⟨e, Problem.concerns_of_factorizeAt hF, hF, rfl⟩
    | ok F => exact Or.inl ⟨_, ⟨F, Problem.factorizeAt?_eq_some hF, rfl⟩, rfl⟩
  · intro memory e hbreaks
    have hF : p.factorizeAt? s S.x = none :=
      Problem.factorizeAt?_eq_none (h.singular_of_breaks hproject hstatus hm hbreaks)
    obtain ⟨hiterations, hgradient⟩ := hlate hF
    rw [hpart]
    exact ⟨hiterations, hgradient, Problem.free_ne_nil_of_singular hF⟩

end Converged

/-- **A converged solution is returned again by a solve from its point**, but for the inverse, or
this solve fails in the factorization that makes the inverse. In exact arithmetic, it fails only if
the Hessian is not positive definite in the returned free coordinates, and neither is the symmetric
matrix with the same lower triangle, and this is what it reports. -/
theorem Solver.repeats_of_returns {m : Nat} (hm : 1 ≤ m) :
    (∀ {α : Type} [Scalar α] {solver : Solver α} {p : Problem α solver.dimension}
      {start : Vec α solver.dimension} {S : Solution α solver.dimension},
      (∀ x, p.project (p.project x) = p.project x) → solver.Returns p start S →
        S.status ≠ .maxIterations → p.Repeats solver.settings S m) ∧
    ∀ {solver : Solver ℝ} {p : Problem ℝ solver.dimension} {start : Vec ℝ solver.dimension}
      {S : Solution ℝ solver.dimension} {memory : Memory ℝ solver.dimension}
      {e : FactorizationError ℝ},
      solver.Returns p start S → S.status ≠ .maxIterations →
        Solver.Breaks ⟨_, { solver.settings with maxIterations := m }, memory⟩ p S.x e →
          e = .notPositiveDefinite ⟨S.partition.free.length, solver.settings.regularization⟩ ∧
          ¬(p.freeSystem S.partition solver.settings.regularization).PosDef ∧
          ¬(mirrored (p.freeSystem S.partition solver.settings.regularization)).PosDef := by
  have hm' : m ≠ 0 := Nat.one_le_iff_ne_zero.mp hm
  constructor
  · intro α _ solver p start S hproject hreturns hstatus
    exact (ending_of_returns hreturns).repeats hproject hstatus hm'
  · intro solver p start S memory e hreturns hstatus hbreaks
    have hF : p.factorizeAt solver.settings S.x = .error e :=
      (ending_of_returns hreturns).singular_of_breaks p.project_project hstatus hm' hbreaks
    have hnone : p.factorizeAt? solver.settings S.x = none := Problem.factorizeAt?_eq_none hF
    rw [((ending_of_returns hreturns).converged hstatus).1]
    exact ⟨Factorization.error_eq hF, (Problem.not_posDef_of_singular hnone).1,
      Factorization.not_posDef_mirrored hnone⟩

/-! ## A direction without curvature -/

namespace Problem

/-- With both coordinates free, the Hessian of the bend `4` has a single entry four times over. -/
theorem not_posDef_bend {part : Partition 2} (hfree : part.free = [0, 1]) :
    ¬((bend 4).freeSystem part 0).PosDef := by
  obtain ⟨free, clamped⟩ := part
  change free = [0, 1] at hfree
  subst hfree
  have hentry (i j : Fin 2) : (bend 4).hessianMatrix i j = 4 := by
    rw [hessianMatrix_bend]
    fin_cases i <;> fin_cases j <;> norm_num
  have hsystem : (bend 4).freeSystem ⟨[0, 1], clamped⟩ 0 = Matrix.of fun _ _ => (4 : ℝ) := by
    unfold freeSystem freeHessian
    rw [Exact.block_eq, zero_smul, add_zero]
    ext i j
    exact hentry _ _
  rw [hsystem]
  intro hposDef
  have hdet : (Matrix.of fun _ _ : Fin 2 => (4 : ℝ)).det = 0 :=
    Matrix.det_zero_of_row_eq Fin.zero_ne_one rfl
  exact hposDef.det_pos.ne' hdet

/-- A solve from the minimum of the bend `4` fails. -/
theorem breaks_bend : ∃ e,
    Solver.Breaks ⟨2, Settings.quarter 1, .fresh 2 none⟩ (bend 4) cornerMinimum e := by
  have hfree : ((bend 4).split cornerMinimum).free = [0, 1] := by
    rw [split_bend entry_zero_cornerMinimum, free_cornerMinimum]
  have hF : (bend 4).factorizeAt? (Settings.quarter 1) cornerMinimum = none := by
    cases hF : (bend 4).factorizeAt? (Settings.quarter 1) cornerMinimum with
    | none => rfl
    | some F =>
      exact absurd ((exists_factorizeAt?_iff (isSymm_bend 4)).mp ⟨F, hF⟩) (not_posDef_bend hfree)
  have hproject : (bend 4).project cornerMinimum = cornerMinimum :=
    project_withHessian.trans project_cornerMinimum
  obtain ⟨e, he⟩ := exists_factorizeAt_eq_error hF
  exact ⟨e, @Solver.breaks_of_singular ℝ _ ⟨2, Settings.quarter 1, .fresh 2 none⟩ (bend 4)
    cornerMinimum e one_ne_zero (hproject.symm ▸ he)⟩

end Problem

/-- Two iterations lead to the minimum of the corner and to that of the bend `4`. The first is
returned again, with an inverse of another size. At the second a solve fails. -/
theorem Solver.repeats_corner :
    (∃ S inverse, Solver.Returns ⟨2, Settings.quarter 2, .fresh 2 none⟩ Problem.corner
        (Vec.zero 2) S ∧
      Problem.corner.Repeats (Settings.quarter 2) S 1 ∧
      Solver.Returns ⟨2, Settings.quarter 1, .fresh 2 none⟩ Problem.corner S.x
        { S with inverse := inverse, iterations := 1 } ∧
      S.iterations = 2 ∧ S.inverse.size = 1 ∧ inverse.size = 2) ∧
    ∃ S e, Solver.Returns ⟨2, Settings.quarter 2, .fresh 2 none⟩ (Problem.bend 4)
        (Vec.zero 2) S ∧
      (Problem.bend 4).Repeats (Settings.quarter 2) S 1 ∧
      Solver.Breaks ⟨2, Settings.quarter 1, .fresh 2 none⟩ (Problem.bend 4) S.x e ∧
      ¬((Problem.bend 4).freeSystem S.partition 0).PosDef := by
  constructor
  · obtain ⟨F, hF⟩ := Problem.outcome_bend_two 5
    have hreturns : Solver.Returns ⟨2, Settings.quarter 2, .fresh 2 none⟩ Problem.corner
        (Vec.zero 2) _ :=
      Problem.returns_withBudget (s := Settings.quarter 2).mpr hF
    have hrepeats : Problem.corner.Repeats (Settings.quarter 2) _ 1 :=
      (Solver.repeats_of_returns le_rfl).1 Problem.corner.project_project hreturns nofun
    obtain ⟨G, -, hG⟩ := Problem.outcome_cornerMinimum (m := 1) one_ne_zero
    rcases hrepeats.outcome (.fresh 2 none) with
      ⟨inverse, ⟨F', -, rfl⟩, hagain⟩ | ⟨e, -, -, hbreaks⟩
    · refine ⟨_, _, hreturns, hrepeats, hagain, rfl, congrArg List.length Problem.free_corner, ?_⟩
      exact congrArg List.length Problem.free_cornerMinimum
    · have hfails := Problem.breaks_withBudget (s := Settings.quarter 2).mp hbreaks
      cases hG.symm.trans hfails
  · obtain ⟨F, hF⟩ := Problem.outcome_bend_two 4
    have hreturns : Solver.Returns ⟨2, Settings.quarter 2, .fresh 2 none⟩ (Problem.bend 4)
        (Vec.zero 2) _ :=
      Problem.returns_withBudget (s := Settings.quarter 2).mpr hF
    have hrepeats : (Problem.bend 4).Repeats (Settings.quarter 2) _ 1 :=
      (Solver.repeats_of_returns le_rfl).1 (Problem.bend 4).project_project hreturns nofun
    obtain ⟨e, hbreaks⟩ := Problem.breaks_bend
    exact ⟨_, e, hreturns, hrepeats, hbreaks,
      ((Solver.repeats_of_returns le_rfl).2 hreturns nofun hbreaks).2.1⟩

/-! ## A factor that is taken to be singular -/

/-- The standard settings, with nothing added to the diagonal. -/
def Settings.unregularized : Settings Float := { Settings.standard with regularization := 0 }

/-- A problem with a positive definite Hessian. The diagonal of its factor goes from `2⁻²⁶` to
`2³⁰`, and elimination on the factor loses the small entry by rounding. -/
def Problem.steep : Problem Float 3 where
  hessian := #v[#v[1, 1, 2], #v[1, 1.0000000000000002, 258], #v[2, 258, 296300826683959672832]]
  linear := #v[1, 1, 2]
  lower := #v[-1e300, 0, 0]
  upper := #v[1e300, 1e300, 1e300]

/-- **A solve from a converged solution can fail on a matrix that has a factor.** From zero, the
minimum is found in the second iteration, in which all coordinates are free. The solve that starts
there returns nothing, and it does not report a matrix that is not positive definite. -/
theorem Solver.singular_steep :
    (∀ x, Problem.steep.project (Problem.steep.project x) = Problem.steep.project x) ∧
    ∃ S, Solver.Returns ⟨3, .unregularized, .fresh 3 none⟩ Problem.steep (Vec.zero 3) S ∧
      S.iterations = 2 ∧ S.status = .gradient ∧ S.partition.free = [0, 1, 2] ∧
      (∀ S', ¬Solver.Returns ⟨3, .unregularized, .fresh 3 none⟩ Problem.steep S.x S') ∧
      (∀ e, Solver.Breaks ⟨3, .unregularized, .fresh 3 none⟩ Problem.steep S.x e ↔
        e = .singular) := by
  have hfirst : (Problem.steep.outcome .unregularized (Vec.zero 3) 100).toOption.map
      (fun S => (S.x, S.iterations, S.status, S.partition.free))
      = some (#v[-1, 0, 0], 2, .gradient, [0, 1, 2]) := by decide +kernel
  have hsecond : errorOf (Problem.steep.outcome .unregularized #v[-1, 0, 0] 100)
      = some .singular := by decide +kernel
  refine ⟨Problem.steep.project_project, ?_⟩
  cases hS : Problem.steep.outcome .unregularized (Vec.zero 3) 100 with
  | error e =>
    rw [hS] at hfirst
    cases hfirst
  | ok S =>
    rw [hS] at hfirst
    simp only [Except.toOption, Option.map_some, Option.some.injEq, Prod.mk.injEq] at hfirst
    obtain ⟨hx, hiterations, hstatus, hfree⟩ := hfirst
    have hfails : Problem.steep.outcome .unregularized S.x 100 = .error .singular := by
      rw [hx]
      exact errorOf_eq_some_iff.mp hsecond
    refine ⟨S, Solver.returns_iff.mpr hS, hiterations, hstatus, hfree, ?_, ?_⟩
    · intro S' hS'
      cases hfails.symm.trans (Solver.returns_iff.mp hS')
    · intro e
      rw [Solver.breaks_iff]
      show Problem.steep.outcome .unregularized S.x 100 = .error e ↔ e = .singular
      rw [hfails, Except.error.injEq, eq_comm]

end ProjectedNewton
