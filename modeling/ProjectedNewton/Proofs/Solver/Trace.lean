import Mathlib.Data.List.Induction
import ProjectedNewton.Proofs.Run.Iterates
import ProjectedNewton.Proofs.Solver.Outcome

/-!
# The trace of a solve

Every iteration that carries out its line search reports it, and no other reports anything. So the
events of a run that is still going on are as many as its iterations, and the event of an iteration
tells where it has come from, where it has led to and by which step.

* `Problem.Recorded` says what the event of one iteration tells, `Run.recorded_of_running` that an
  iteration that goes on reports this.
* `Problem.Records` says it of all events of a run in their order, and `Run.records_of_advance`
  follows for runs of any length.
* `Problem.replay_eq`: the accepted steps of the events, taken again from the projected start, lead
  to the iterate.
* `Problem.Narrates` is what a whole run has reported at its end (`Workspace.narrates_solve`).
* `Solver.narrated_solve` is the main result: a solver passes on what its run has reported, whatever
  it was used for before, and reports nothing of its own.
-/

namespace ProjectedNewton

open Scalar

variable {α : Type}

/-- The length of the step that an event reports, if one was accepted. -/
def Event.length? : Event α → Option α
  | stepTaken _ _ _ _ length _ => some length
  | searchExhausted .. => none
  | result .. => none

variable [Scalar α] {n : Nat}

/-! ## Line searches -/

namespace LineSearch

variable {l : LineSearch α n} {a : α}

/-- **The accepted length is the first one that is accepted**: those tried before, which are larger,
are not. -/
theorem exists_first_of_acceptedLength (h : l.acceptedLength = some a) :
    ∃ i < stepCount, a = halving i ∧ l.accepts (halving i) ∧
      ∀ j < i, l.accepts (halving j) = false := by
  obtain ⟨haccepts, i, hi, hget, hbefore⟩ := List.find?_eq_some_iff_getElem.mp h
  have hcount : i < stepCount := by
    simpa [stepLengths] using hi
  have ha : halving i = a := by
    simpa [stepLengths] using hget
  refine ⟨i, hcount, ha.symm, ha ▸ haccepts, ?_⟩
  intro j hj
  have hrejected := hbefore j hj
  simpa [stepLengths] using hrejected

/-- If no length is accepted, all of them are rejected. -/
theorem accepts_eq_false_of_acceptedLength (h : l.acceptedLength = none) {i : Nat}
    (hi : i < stepCount) : l.accepts (halving i) = false := by
  have hrejected := List.find?_eq_none.mp h (halving i)
    (List.mem_map_of_mem (List.mem_range.mpr hi))
  exact Bool.eq_false_iff.mpr hrejected

end LineSearch

/-! ## One iteration -/

namespace Problem

variable (p : Problem α n) (s : Settings α)

/-- What an event tells of iteration number `k`, which leads from `x` to `y`. -/
inductive Recorded (k : Nat) (x : Vec α n) : Vec α n → Event α → Prop
  /-- The first length that passes the test at `x` leads to `y`. The value is the one at `y`, the
  reduction that from `x` to `y`; gradient and clamped coordinates are those of `x`. -/
  | stepTaken {F : Factorization α (p.split x).free.length} {i : Nat}
      (factored : p.factorizeAt? s x = some F) (tried : i < stepCount)
      (accepted : (p.search s x F).accepts (halving i))
      (first : ∀ j < i, (p.search s x F).accepts (halving j) = false) :
    Recorded k x ((p.search s x F).candidate (halving i))
      (.stepTaken k (p.value ((p.search s x F).candidate (halving i))) (p.gradient x).maxAbs
        (p.value x - p.value ((p.search s x F).candidate (halving i))) (halving i)
        (p.split x).clamped.length)
  /-- All lengths are rejected. The iteration stays at `x`, and so does the value. -/
  | searchExhausted {F : Factorization α (p.split x).free.length}
      (factored : p.factorizeAt? s x = some F)
      (rejected : ∀ i < stepCount, (p.search s x F).accepts (halving i) = false) :
    Recorded k x x (.searchExhausted k (p.value x) (p.gradient x).maxAbs (p.split x).clamped.length)

/-- The point to which a Newton step of length `a` leads from `x`, moved back into the box. -/
def stepFrom (x : Vec α n) (a : α) : Vec α n :=
  match p.factorizeAt? s x with
  | some F => p.project (((p.directionAt x F).scale a).add x)
  | none => x

variable {p s} {k : Nat} {x y : Vec α n} {event : Event α}

/-- An iteration leads to where a step of the length that it reports leads, or stays where it is if
it reports none. -/
theorem Recorded.eq_stepFrom (h : p.Recorded s k x y event) :
    y = event.length?.elim x (p.stepFrom s x) := by
  cases h with
  | stepTaken factored tried accepted first =>
    show _ = p.stepFrom s x _
    unfold stepFrom
    rw [factored]
    rfl
  | searchExhausted factored rejected => rfl

end Problem

namespace Run

variable {p : Problem α n} {s : Settings α} {r q : Run α n} {status : Status}

/-- **An iteration that goes on reports where it has led to**, and by which step. -/
theorem recorded_of_running (h : r.step p s = .running q) : ∃ event,
    q.trace = r.trace.push event ∧
      p.Recorded s (r.iterations + 1) r.workspace.iterate q.workspace.iterate event := by
  have hcase : StepCase p s r (r.step p s) := step_cases p s r
  rw [h] at hcase
  cases hcase with
  | @searched F goesOn factored large =>
    have hsearch : (r.direct p F).lineSearch p s = p.search s r.workspace.iterate F := rfl
    rw [descend_direct_iterate]
    unfold descend LineSearch.landing LineSearch.lastLength
    dsimp only
    rw [hsearch]
    cases haccepted : (p.search s r.workspace.iterate F).acceptedLength with
    | none =>
      refine ⟨_, rfl, .searchExhausted factored ?_⟩
      exact fun i hi => LineSearch.accepts_eq_false_of_acceptedLength haccepted hi
    | some a =>
      obtain ⟨i, hi, rfl, haccepts, hfirst⟩ :=
        LineSearch.exists_first_of_acceptedLength haccepted
      exact ⟨_, rfl, .stepTaken factored hi haccepts hfirst⟩

/-- An iteration that stops reports nothing. -/
theorem trace_of_stopped (h : r.step p s = .stopped q status) : q.trace = r.trace := by
  have hcase : StepCase p s r (r.step p s) := step_cases p s r
  rw [h] at hcase
  cases hcase with
  | stopsFirst stops first factored => rfl
  | stopsLater stops later => rfl
  | short goesOn factored small => rfl

/-- An iteration that breaks down reports nothing. -/
theorem trace_of_broken {e : FactorizationError α} (h : r.step p s = .broken q e) :
    q.trace = r.trace := by
  have hcase : StepCase p s r (r.step p s) := step_cases p s r
  rw [h] at hcase
  cases hcase with
  | singular failed needed => rfl

end Run

/-! ## All iterations -/

namespace Problem

variable (p : Problem α n) (s : Settings α) (start : Vec α n)

/-- The events are those of the first iterations of a run, in their order and numbered from one
on. -/
def Records (events : List (Event α)) : Prop :=
  ∀ (k : Nat) (h : k < events.length), ∃ x y, p.Reaches s start k x ∧
    p.Reaches s start (k + 1) y ∧ p.Recorded s (k + 1) x y events[k]

variable {p s start} {events : List (Event α)} {event : Event α} {x y : Vec α n}

theorem records_nil : p.Records s start [] := fun _ h => absurd h (Nat.not_lt_zero _)

/-- One more iteration adds its event at the end. -/
theorem Records.concat (h : p.Records s start events) (hx : p.Reaches s start events.length x)
    (hy : p.Reaches s start (events.length + 1) y)
    (hevent : p.Recorded s (events.length + 1) x y event) :
    p.Records s start (events ++ [event]) := by
  intro k hk
  rw [List.length_append, List.length_singleton] at hk
  rcases Nat.lt_or_eq_of_le (Nat.le_of_lt_succ hk) with hlt | rfl
  · rw [List.getElem_append_left hlt]
    exact h k hlt
  · rw [List.getElem_concat_length rfl]
    exact ⟨x, y, hx, hy, hevent⟩

theorem Records.of_concat (h : p.Records s start (events ++ [event])) :
    p.Records s start events := by
  intro k hk
  have hrecorded := h k (by rw [List.length_append]; exact Nat.lt_add_right 1 hk)
  rwa [List.getElem_append_left hk] at hrecorded

/-- **The steps of the events, taken again from the projected start, lead to the iterate.** -/
theorem replay_eq (h : p.Records s start events) (hx : p.Reaches s start events.length x) :
    (events.filterMap Event.length?).foldl (p.stepFrom s) (p.project start) = x := by
  induction events using List.reverseRecOn generalizing x with
  | nil => exact (reaches_zero.mp hx).symm
  | append_singleton events event ih =>
    obtain ⟨y, x', hy, hx', hrecorded⟩ := h events.length (by simp)
    rw [List.getElem_concat_length rfl] at hrecorded
    rw [List.length_append] at hx
    obtain rfl := reaches_unique hx hx'
    rw [List.filterMap_append, List.foldl_append, ih h.of_concat hy, hrecorded.eq_stepFrom]
    cases hlength : event.length? with
    | none => simp [hlength]
    | some a => simp [hlength]

end Problem

namespace Run

variable {p : Problem α n} {s : Settings α} {start : Vec α n} {k : Nat} {q : Run α n}

/-- **A run that goes on has reported all of its iterations.** -/
theorem records_of_advance
    (h : (Run.start (Workspace.fresh n) p start).advance p s k = .running q) :
    q.trace.toList.length = k ∧ p.Records s start q.trace.toList := by
  induction k generalizing q with
  | zero =>
    cases h
    exact ⟨rfl, Problem.records_nil⟩
  | succ k ih =>
    obtain ⟨r, hr, hstep⟩ := advance_succ_running_iff.mp h
    obtain ⟨hlength, hrecords⟩ := ih hr
    obtain ⟨event, htrace, hevent⟩ := recorded_of_running hstep
    have hcount : r.iterations = k := (iterations_of_advance hr).trans (Nat.zero_add k)
    rw [hcount] at hevent
    rw [htrace, Array.toList_push]
    refine ⟨by rw [List.length_append, hlength]; rfl, ?_⟩
    subst hlength
    exact hrecords.concat ⟨r, hr, rfl⟩ ⟨q, h, rfl⟩ hevent

end Run

/-! ## The whole run -/

/-- What a run from `start` has reported at its end. -/
inductive Problem.Narrates (p : Problem α n) (s : Settings α) (start : Vec α n) :
    Report α n → Prop
  /-- It has returned a solution: one event for every iteration, apart from the one that has
  stopped if it was stopped by one, then the result. -/
  | returned {events : List (Event α)} {sol : Solution α n} (records : p.Records s start events)
      (count : sol.iterations = events.length + if sol.status = .maxIterations then 0 else 1)
      (replayed :
        (events.filterMap Event.length?).foldl (p.stepFrom s) (p.project start) = sol.x) :
    Narrates p s start ⟨.ok sol, events.toArray.push (.result sol.status sol.iterations
      sol.partition.free.length sol.partition.clamped.length)⟩
  /-- It has broken down in an iteration at `x`: one event for every iteration before, and no
  result. -/
  | broken {events : List (Event α)} {x : Vec α n} {e : FactorizationError α}
      (records : p.Records s start events) (budget : events.length < s.maxIterations)
      (reached : p.Reaches s start events.length x) (failed : p.factorizeAt s x = .error e)
      (concerns : e.Concerns (p.split x).free.length s.regularization) :
    Narrates p s start ⟨.error e, events.toArray⟩

namespace Problem.Narrates

variable {p : Problem α n} {s : Settings α} {start : Vec α n}

/-- A run that ends with a solution at its last iterate. -/
theorem finish {q : Run α n} {status : Status} (hrecords : p.Records s start q.trace.toList)
    (hreached : p.Reaches s start q.trace.toList.length q.workspace.iterate)
    (hcount : q.iterations
      = q.trace.toList.length + if status = .maxIterations then 0 else 1) :
    p.Narrates s start (q.finish status) := by
  have hreplayed : (q.trace.toList.filterMap Event.length?).foldl (p.stepFrom s)
      (p.project start) = (q.solution status).x := replay_eq hrecords hreached
  have hreport := Narrates.returned hrecords hcount hreplayed
  rw [Array.toArray_toList] at hreport
  exact hreport

end Problem.Narrates

/-- **A run reports all of its iterations but the one that ends it**, then its result if it has
one. -/
theorem Workspace.narrates_solve (s : Settings α) (p : Problem α n) (start : Vec α n) :
    p.Narrates s start ((Workspace.fresh n).solve s p start).2 := by
  by_cases hm : s.maxIterations = 0
  · unfold solve
    dsimp only
    rw [if_pos hm]
    exact .finish Problem.records_nil (Problem.reaches_zero.mpr rfl) rfl
  · rw [report_of_budget hm]
    cases hend : (Run.start (Workspace.fresh n) p start).advance p s s.maxIterations with
    | running q =>
      obtain ⟨hlength, hrecords⟩ := Run.records_of_advance hend
      refine .finish hrecords ⟨q, hlength ▸ hend, rfl⟩ ?_
      rw [Run.iterations_of_advance hend, hlength]
      exact Nat.zero_add _
    | stopped q status =>
      obtain ⟨k, hk, r, hr, hstep⟩ := Run.exists_step_of_advance (by simp) hend
      obtain ⟨hlength, hrecords⟩ := Run.records_of_advance hr
      have hstatus : status ≠ .maxIterations := by
        rintro rfl
        cases Run.converged_of_stopped hstep
      have htrace : q.trace = r.trace := Run.trace_of_stopped hstep
      rw [← htrace] at hlength hrecords
      refine .finish hrecords ⟨r, hlength ▸ hr, (Run.fields_of_stopped hstep).1.symm⟩ ?_
      rw [Run.iterations_of_stopped hstep, Run.iterations_of_advance hr, hlength, if_neg hstatus]
      show 0 + k + 1 = k + 1
      rw [Nat.zero_add]
    | broken q e =>
      obtain ⟨k, hk, r, hr, hstep⟩ := Run.exists_step_of_advance (by simp) hend
      obtain ⟨rfl, hrecords⟩ := Run.records_of_advance hr
      have hfailed := Run.factorizeAt_of_broken hstep
      have hreport := Problem.Narrates.broken hrecords hk ⟨r, hr, rfl⟩ hfailed
        (Problem.concerns_of_factorizeAt hfailed)
      rw [Array.toArray_toList, ← Run.trace_of_broken hstep] at hreport
      exact hreport

/-! ## The trace of a solver -/

/-- What a solver has reported when it answers. -/
inductive Solver.Narrated (solver : Solver α) (arguments : Arguments α) : Answer α → Prop
  /-- An argument is refused, and nothing is reported. -/
  | refused {e : Failure α} (bad : arguments.check solver.dimension = .error e) :
    Narrated solver arguments ⟨.error e, #[]⟩
  /-- The arguments describe a problem, and its run is reported. -/
  | ran {p : Problem α solver.dimension} {start : Vec α solver.dimension}
      {report : Report α solver.dimension} (good : arguments = .ofProblem p start)
      (narrates : p.Narrates solver.settings start report) :
    Narrated solver arguments report.answer

/-- **The trace of a solve is faithful**, for any arguments, settings and arithmetic. -/
theorem Solver.narrated_solve (solver : Solver α) (arguments : Arguments α) :
    solver.Narrated arguments (solver.solve arguments).2 := by
  cases hcheck : arguments.check solver.dimension with
  | error e =>
    unfold solve
    rw [hcheck]
    exact .refused hcheck
  | ok checked =>
    obtain ⟨p, start⟩ := checked
    obtain rfl := Arguments.check_eq_ok_iff.mp hcheck
    rw [solve_answer]
    exact .ran rfl (Workspace.narrates_solve solver.settings p start)

end ProjectedNewton
