import ProjectedNewton.Proofs.Exact.Relabelling
import ProjectedNewton.Proofs.Run.Provenance
import ProjectedNewton.Proofs.Solver.Budget

/-!
# Solving in other variables

A solve of a problem whose variables are listed in another order, or replaced by their negatives,
ends as the solve of the problem itself does: at the same point, after as many iterations, with the
same status, or with the same error. The two runs go side by side. An iteration sees the iterate
alone and whether it is the first one, and its parts go along with the change of variables.

The entries of the inverse go along, too, if the inverse belongs to the returned free coordinates.
Otherwise it has the entries of other coordinates, in positions that the returned partition does not
tell.

* `Relabelling.Runs` compares two runs, `Relabelling.Follows` what becomes of them.
* `Relabelling.follows_step` is one iteration of both, `Relabelling.follows_advance` any number.
* `Relabelling.Carries` compares two solutions, and `Solver.relabelled_of_ordered` is the main
  result.
-/

namespace ProjectedNewton

section Entry

variable {α : Type} {m n : ℕ}

/-- The entry in row `k` and column `l`, if there is one. -/
def Square.entryAt? (A : Square α) (k l : ℕ) : Option α :=
  if h : k < A.size ∧ l < A.size then some (A.entries ⟨k, h.1⟩ ⟨l, h.2⟩) else none

theorem Square.entryAt?_mk (A : Mat α m m) (k l : Fin m) :
    (⟨m, A⟩ : Square α).entryAt? k l = some (A k l) :=
  dif_pos ⟨k.isLt, l.isLt⟩

/-- The entry of the returned inverse for the free coordinates `i` and `j`. -/
def Solution.inverseEntry? (sol : Solution α n) (i j : Fin n) : Option α := do
  let k ← sol.partition.free.finIdxOf? i
  let l ← sol.partition.free.finIdxOf? j
  sol.inverse.entryAt? k l

theorem Solution.inverseEntry?_get {sol : Solution α n}
    {A : Mat α sol.partition.free.length sol.partition.free.length}
    (hnodup : sol.partition.free.Nodup) (h : sol.inverse = ⟨_, A⟩)
    (k l : Fin sol.partition.free.length) : sol.inverseEntry? (sol.partition.free.get k)
      (sol.partition.free.get l) = some (A k l) := by
  unfold inverseEntry?
  rw [finIdxOf?_get hnodup, finIdxOf?_get hnodup, h]
  exact Square.entryAt?_mk A k l

end Entry

namespace Relabelling

variable {n : ℕ} (τ : Relabelling (Fin n) (Fin n)) {p : Problem ℝ n} {s : Settings ℝ}
  {r r' : Run ℝ n}

/-! ## Two runs side by side -/

/-- Two runs at the same point, in the old and in the new variables. -/
structure Runs (r r' : Run ℝ n) : Prop where
  iterate : r'.workspace.iterate = τ.vec r.workspace.iterate
  splits : τ.Splits r.partition r'.partition
  iterations : r'.iterations = r.iterations

/-- Two runs that both go on, have both stopped with the same status, or have both broken down with
the same error. -/
inductive Follows : Progress ℝ n → Progress ℝ n → Prop
  | running {r r' : Run ℝ n} (h : τ.Runs r r') : Follows (.running r) (.running r')
  | stopped {r r' : Run ℝ n} (h : τ.Runs r r') (status : Status) :
      Follows (.stopped r status) (.stopped r' status)
  | broken (r r' : Run ℝ n) (e : FactorizationError ℝ) : Follows (.broken r e) (.broken r' e)

section Step

variable (hH : p.hessianMatrix.IsSymm) (hbox : ∀ i, p.lower i ≤ p.upper i)

include hH hbox in
/-- **One iteration of both.** Each way in which the first one can go is open to the second one. -/
theorem follows_step (h : τ.Runs r r') :
    τ.Follows (r.step p s) (r'.step (τ.problem p) s) := by
  obtain ⟨hx, -, hcount⟩ := h
  have hstop : (τ.problem p).stopStatus? s r'.workspace.iterate
      = p.stopStatus? s r.workspace.iterate := by
    rw [hx, stopStatus?_vec]
  have hfactored : (∃ F', (τ.problem p).factorizeAt? s r'.workspace.iterate = some F') ↔
      ∃ F, p.factorizeAt? s r.workspace.iterate = some F := by
    rw [hx]
    exact τ.exists_factorizeAt?_iff hH
  have hsplits : τ.Splits (p.split r.workspace.iterate)
      ((τ.problem p).split r'.workspace.iterate) := by
    rw [hx]
    exact τ.splits_split p _
  have hcase : Run.StepCase p s r (r.step p s) := Run.step_cases p s r
  generalize r.step p s = progress at hcase
  cases hcase with
  | @singular e failed needed =>
    obtain ⟨e', hF'⟩ : ∃ e', (τ.problem p).factorizeAt s r'.workspace.iterate = .error e' := by
      refine Problem.exists_factorizeAt_eq_error (Option.eq_none_iff_forall_ne_some.mpr ?_)
      intro F' hF'
      obtain ⟨F, hF⟩ := hfactored.mp ⟨F', hF'⟩
      cases hF.symm.trans (Problem.factorizeAt?_eq_none failed)
    -- Both errors tell the number of free coordinates.
    have herror : e' = e := by
      rw [Factorization.error_eq hF', Factorization.error_eq failed, hx, length_free_split]
    rw [Run.step_of_singular hF' (needed.imp hcount.trans hstop.trans), herror]
    exact .broken _ _ _
  | stopsFirst stops first factored =>
    obtain ⟨F', hF'⟩ := hfactored.mpr ⟨_, factored⟩
    rw [Run.step_of_stops (hstop.trans stops) (hcount.trans first) hF']
    refine .stopped ?_ _
    exact ⟨hx, hsplits, congrArg (· + 1) hcount⟩
  | stopsLater stops later =>
    rw [Run.step_of_stops_later (hstop.trans stops) (hcount ▸ later)]
    refine .stopped ?_ _
    exact ⟨hx, hsplits, congrArg (· + 1) hcount⟩
  | short goesOn factored small =>
    obtain ⟨F', hF'⟩ := hfactored.mpr ⟨_, factored⟩
    rw [← τ.maxAbs_vec, ← τ.directionAt_vec hx hH factored hF'] at small
    rw [Run.step_of_short (hstop.trans goesOn) hF' small]
    refine .stopped ?_ _
    exact ⟨hx, hsplits, congrArg (· + 1) hcount⟩
  | searched goesOn factored large =>
    obtain ⟨F', hF'⟩ := hfactored.mpr ⟨_, factored⟩
    rw [← τ.maxAbs_vec, ← τ.directionAt_vec hx hH factored hF'] at large
    rw [Run.step_of_newton (hstop.trans goesOn) hF' large]
    refine .running ⟨?_, ?_, ?_⟩
    · rw [Run.descend_direct_iterate, Run.descend_direct_iterate]
      exact τ.landing_vec hx hH factored hF' hbox
    · rw [Run.descend_direct_partition, Run.descend_direct_partition]
      exact hsplits
    · rw [Run.descend_direct_iterations, Run.descend_direct_iterations, hcount]

include hH hbox in
/-- **Any number of iterations of both.** -/
theorem follows_advance (k : ℕ) : ∀ {r r' : Run ℝ n}, τ.Runs r r' →
    τ.Follows (r.advance p s k) (r'.advance (τ.problem p) s k) := by
  induction k with
  | zero =>
    intro r r' h
    exact .running h
  | succ k ih =>
    intro r r' h
    have hstep := τ.follows_step (s := s) hH hbox h
    unfold Run.advance
    generalize r.step p s = e at hstep
    generalize r'.step (τ.problem p) s = e' at hstep
    cases hstep with
    | running h => exact ih h
    | stopped h status => exact .stopped h status
    | broken r r' e => exact .broken r r' e

include hbox in
theorem runs_start (start : Vec ℝ n) : τ.Runs (Run.start (Workspace.fresh n) p start)
    (Run.start (Workspace.fresh n) (τ.problem p) (τ.vec start)) where
  iterate := τ.project_vec hbox start
  splits := by
    have hsplits := τ.splits_split p (p.project start)
    rw [← τ.project_vec hbox] at hsplits
    exact hsplits
  iterations := rfl

include hH hbox in
/-- The points that the second run reaches are those of the first one. -/
theorem exists_reaches {start y' : Vec ℝ n} {k : ℕ}
    (h : (τ.problem p).Reaches s (τ.vec start) k y') :
    ∃ y, p.Reaches s start k y ∧ y' = τ.vec y := by
  obtain ⟨q', hq', rfl⟩ := h
  have hfollows := τ.follows_advance (s := s) hH hbox k (τ.runs_start hbox start)
  rw [hq'] at hfollows
  generalize hadvance : (Run.start (Workspace.fresh n) p start).advance p s k = e at hfollows
  cases hfollows with
  | running hruns => exact ⟨_, ⟨_, hadvance, rfl⟩, hruns.iterate⟩

end Step

/-! ## Two solutions -/

/-- Two solutions at the same point, in the old and in the new variables. -/
structure Solutions (sol sol' : Solution ℝ n) : Prop where
  x : sol'.x = τ.vec sol.x
  splits : τ.Splits sol.partition sol'.partition
  iterations : sol'.iterations = sol.iterations
  status : sol'.status = sol.status

theorem Runs.solutions {τ : Relabelling (Fin n) (Fin n)} (h : τ.Runs r r') (status : Status) :
    τ.Solutions (r.solution status) (r'.solution status) :=
  ⟨h.iterate, h.splits, h.iterations, rfl⟩

/-- What the solve of the relabelled problem returns, if the solve of the problem from `start`
returns `sol`. -/
structure Carries (p : Problem ℝ n) (s : Settings ℝ) (start : Vec ℝ n)
    (sol sol' : Solution ℝ n) : Prop extends τ.Solutions sol sol' where
  /-- The inverse has the same entries, if it belongs to the returned free coordinates: if there was
  an iteration, and the last one has left the free coordinates as they were. -/
  inverse : s.maxIterations ≠ 0 → p.Settled s start sol →
    ∀ i ∈ sol'.partition.free, ∀ j ∈ sol'.partition.free, ∃ a : ℝ,
      sol.inverseEntry? (τ.index i) (τ.index j) = some a ∧
      sol'.inverseEntry? i j = some (τ.factor i * τ.factor j * a)

section Solution

variable {τ} {start : Vec ℝ n} {sol sol' : Solution ℝ n} (hH : p.hessianMatrix.IsSymm)
  (hbox : ∀ i, p.lower i ≤ p.upper i)

/-- The same coordinates in increasing order are the same list. -/
theorem free_eq_of_splits {part part₁ part₂ : Partition n} (h₁ : part₁.IsSplit)
    (h₂ : part₂.IsSplit) (hsplits₁ : τ.Splits part part₁) {part' : Partition n}
    (hsplits₂ : τ.Splits part' part₂) (hfree : part.free = part'.free) :
    part₁.free = part₂.free := by
  refine h₁.free_sorted.eq_of_mem_iff h₂.free_sorted ?_
  intro i
  rw [hsplits₁.mem_free, hsplits₂.mem_free, hfree]

include hH hbox in
/-- If the last iteration of the one run has left the free coordinates as they were, then that of
the other one has, too. -/
theorem Solutions.settled (h : τ.Solutions sol sol') (hsettled : p.Settled s start sol)
    (hsplit' : sol'.partition.IsSplit) : (τ.problem p).Settled s (τ.vec start) sol' := by
  intro k y' hiterations hstatus hreaches
  obtain ⟨y, hy, rfl⟩ := τ.exists_reaches hH hbox hreaches
  rw [h.iterations] at hiterations
  rw [h.status] at hstatus
  exact free_eq_of_splits (Problem.isSplit_split _ _) hsplit' (τ.splits_split p y) h.splits
    (hsettled k y hiterations hstatus hy)

include hH hbox in
/-- **Two solutions at the same point have the same inverse**, if it belongs to the free
coordinates. -/
theorem Solutions.carries (h : τ.Solutions sol sol')
    (hend : Ending (Workspace.fresh n) s p start sol)
    (hend' : Ending (Workspace.fresh n) s (τ.problem p) (τ.vec start) sol') :
    τ.Carries p s start sol sol' where
  toSolutions := h
  inverse := by
    intro hm hsettled i hi j hj
    obtain ⟨x, hx⟩ := hend.exists_split
    obtain ⟨x', hx'⟩ := hend'.exists_split
    have hsplit : sol.partition.IsSplit := hx ▸ p.isSplit_split x
    have hsplit' : sol'.partition.IsSplit := hx' ▸ (τ.problem p).isSplit_split x'
    have hfree : sol.partition.free ≠ [] :=
      List.ne_nil_of_mem ((h.splits.mem_free i).mp hi)
    obtain ⟨F, hF, hinverse⟩ := hend.inverseFor_of_settled hm hsettled hfree
    obtain ⟨F', hF', hinverse'⟩ := hend'.inverseFor_of_settled hm
      (h.settled hH hbox hsettled hsplit') (List.ne_nil_of_mem hi)
    obtain ⟨k, rfl⟩ := List.get_of_mem hi
    obtain ⟨l, rfl⟩ := List.get_of_mem hj
    have hentries := τ.inverse_problem hH hsplit hsplit' h.splits hF hF'
    refine ⟨F.inverse ((τ.onFree hsplit hsplit' h.splits).index k)
      ((τ.onFree hsplit hsplit' h.splits).index l), ?_, ?_⟩
    · rw [← τ.get_onFree hsplit hsplit' h.splits k, ← τ.get_onFree hsplit hsplit' h.splits l]
      exact Solution.inverseEntry?_get hsplit.nodup_free hinverse _ _
    · rw [Solution.inverseEntry?_get hsplit'.nodup_free hinverse' k l]
      exact congrArg some (congrFun (congrFun hentries k) l)

end Solution

/-! ## The whole solve -/

/-- Two outcomes of a run: the same solution in the old and in the new variables, or the same
error. -/
inductive Outcomes : Except (FactorizationError ℝ) (Solution ℝ n) →
    Except (FactorizationError ℝ) (Solution ℝ n) → Prop
  | ok {sol sol' : Solution ℝ n} (h : τ.Solutions sol sol') : Outcomes (.ok sol) (.ok sol')
  | error (e : FactorizationError ℝ) : Outcomes (.error e) (.error e)

theorem outcomes_solve (hH : p.hessianMatrix.IsSymm) (hbox : ∀ i, p.lower i ≤ p.upper i)
    (start : Vec ℝ n) : τ.Outcomes ((Workspace.fresh n).solve s p start).2.outcome
      ((Workspace.fresh n).solve s (τ.problem p) (τ.vec start)).2.outcome := by
  have hstart := τ.runs_start hbox start
  by_cases hm : s.maxIterations = 0
  · rw [Workspace.outcome_of_idle hm, Workspace.outcome_of_idle hm]
    exact .ok ⟨hstart.iterate, hstart.splits, rfl, rfl⟩
  · rw [Workspace.report_of_budget hm, Workspace.report_of_budget hm]
    have hfollows := τ.follows_advance (s := s) hH hbox s.maxIterations hstart
    generalize (Run.start _ p start).advance p s s.maxIterations = e at hfollows
    generalize (Run.start _ (τ.problem p) _).advance (τ.problem p) s s.maxIterations = e'
      at hfollows
    cases hfollows with
    | running h => exact .ok (h.solutions .maxIterations)
    | stopped h status => exact .ok (h.solutions status)
    | broken r r' e => exact .error e

end Relabelling

/-- **A change of variables and a solve can be exchanged.** -/
theorem Solver.relabelled_of_ordered {solver : Solver ℝ} {p : Problem ℝ solver.dimension}
    (τ : Relabelling (Fin solver.dimension) (Fin solver.dimension))
    (start : Vec ℝ solver.dimension) (hH : p.hessianMatrix.IsSymm)
    (hbox : ∀ i, p.lower i ≤ p.upper i) :
    (∀ sol, solver.Returns p start sol → ∃ sol',
      solver.Returns (τ.problem p) (τ.vec start) sol' ∧
      τ.Carries p solver.settings start sol sol') ∧
    ∀ e, solver.Breaks p start e → solver.Breaks (τ.problem p) (τ.vec start) e := by
  have houtcomes := τ.outcomes_solve (s := solver.settings) hH hbox start
  constructor
  · intro sol hsol
    rw [returns_iff.mp hsol] at houtcomes
    generalize houtcome : ((Workspace.fresh solver.dimension).solve solver.settings (τ.problem p)
      (τ.vec start)).2.outcome = outcome at houtcomes
    cases houtcomes with
    | ok h =>
      have hsol' := returns_iff.mpr houtcome
      exact ⟨_, hsol', h.carries hH hbox (ending_of_returns hsol) (ending_of_returns hsol')⟩
  · intro e he
    rw [breaks_iff.mp he] at houtcomes
    generalize houtcome : ((Workspace.fresh solver.dimension).solve solver.settings (τ.problem p)
      (τ.vec start)).2.outcome = outcome at houtcomes
    cases houtcomes with
    | error e => exact breaks_iff.mpr houtcome

/-- The two variables in the opposite order, the first one of the new ones reflected. -/
def Relabelling.exchange : Relabelling (Fin 2) (Fin 2) where
  index := Fin.revPerm
  sign := ![-1, 1]

/-- The solution of the corner and that of the exchanged corner. -/
theorem Solver.relabelled_corner : Problem.corner.hessianMatrix.IsSymm ∧
    (∀ i, Problem.corner.lower i ≤ Problem.corner.upper i) ∧ ∃ sol sol',
      Solver.Returns ⟨2, Settings.quarter 1, .fresh 2 none⟩ Problem.corner (Vec.zero 2) sol ∧
      Solver.Returns ⟨2, Settings.quarter 1, .fresh 2 none⟩
        (Relabelling.exchange.problem Problem.corner) (Relabelling.exchange.vec (Vec.zero 2)) sol' ∧
      sol.x.entry = ![0, -1] ∧ sol'.x.entry = ![1, 0] ∧
      ∃ a, sol.inverseEntry? 1 1 = some a ∧ sol'.inverseEntry? 0 0 = some a := by
  have hH : Problem.corner.hessianMatrix.IsSymm := Problem.posDef_corner.isHermitian
  refine ⟨hH, Problem.lower_le_upper_corner, ?_⟩
  obtain ⟨F, -, hA⟩ := Problem.outcome_corner (m := 1)
  have hsol : Solver.Returns ⟨2, Settings.quarter 1, .fresh 2 none⟩ Problem.corner (Vec.zero 2) _ :=
    Problem.returns_withBudget (s := Settings.quarter 1).mpr hA
  obtain ⟨sol', hsol', hcarries⟩ := (@Solver.relabelled_of_ordered
    ⟨2, Settings.quarter 1, .fresh 2 none⟩ Problem.corner Relabelling.exchange (Vec.zero 2) hH
    Problem.lower_le_upper_corner).1 _ hsol
  refine ⟨_, sol', hsol, hsol', Problem.entry_cornerMinimum, ?_, ?_⟩
  · rw [hcarries.x, Relabelling.vec_eq]
    funext i
    fin_cases i <;> simp [Relabelling.relabel, Relabelling.factor, Relabelling.exchange,
      Problem.entry_cornerMinimum]
  · have hfree : (0 : Fin 2) ∈ sol'.partition.free := by
      rw [hcarries.splits.mem_free]
      show (1 : Fin 2) ∈ (Problem.corner.split (Vec.zero 2)).free
      simp [Problem.free_corner]
    have hsettled : Problem.corner.Settled (Settings.quarter 1) (Vec.zero 2)
        ⟨Problem.cornerMinimum, Problem.corner.split (Vec.zero 2), ⟨_, F.inverse⟩, 1,
          .maxIterations⟩ := by
      intro k y hiterations
      cases hiterations
    obtain ⟨a, ha, ha'⟩ := hcarries.inverse one_ne_zero hsettled 0 hfree 0 hfree
    rw [Relabelling.factor_mul_self, one_mul] at ha'
    exact ⟨a, ha, ha'⟩

end ProjectedNewton
