import ProjectedNewton.Proofs.Solver.Assignment
import ProjectedNewton.Session

/-!
# A solver in use is as good as a new one

Requests change a solver: its configuration, its working memory, which a failed solve leaves as it
is at that moment, and the last solution. Of all this only the configuration shows in what the
solver answers next. The last solution is the one that was returned last, by whatever request.

* `Session.respond_solution` and `Session.configured_respond` say what one request does to the last
  solution and to the configuration.
* `Session.run_solution` and `Session.configured_run` follow for sequences of requests.
* `Session.likeNew_run` is the main result.
-/

namespace ProjectedNewton

namespace Session

/-! ## One request -/

theorem solve_solution (session : Session) (problem : ProblemArguments Float) (start : Start) :
    (session.solve problem start).1.solver.solution
      = (session.solve problem start).2.outcome.toOption.or session.solver.solution := by
  unfold solve
  cases session.start? start with
  | none => rfl
  | some start => exact Solver.solve_solution session.solver { problem with start := start }

/-- A request makes the solution that it returns the last one, and no other does. -/
theorem respond_solution (session : Session) (request : Request) :
    (session.respond request).1.solver.solution
      = (solutionOf (session.respond request).2).or session.solver.solution := by
  cases request with
  | solve problem start withValue => exact solve_solution session problem start
  | set name value =>
    cases value with
    | error e => rfl
    | ok d => exact Solver.set_solution session.solver d (.ofName name)
  | configuration => rfl
  | solution => rfl
  | returned request => rfl
  | description => rfl
  | incomplete => rfl

theorem configured_solve {session : Session} (h : session.solver.Configured)
    (problem : ProblemArguments Float) (start : Start) :
    (session.solve problem start).1.solver.Configured := by
  unfold solve
  cases session.start? start with
  | none => exact h
  | some start =>
    obtain ⟨hdimension, hsettings⟩ :=
      Solver.solve_configuration session.solver { problem with start := start }
    exact ⟨hdimension ▸ h.dimension_pos, hsettings ▸ h.admissible⟩

/-- A request keeps the solver configured. -/
theorem configured_respond {session : Session} (h : session.solver.Configured)
    (request : Request) : (session.respond request).1.solver.Configured := by
  cases request with
  | solve problem start withValue => exact configured_solve h problem start
  | set name value =>
    cases value with
    | error e => exact h
    | ok d => exact Solver.configured_set h d (.ofName name)
  | configuration => exact h
  | solution => exact h
  | returned request => exact h
  | description => exact h
  | incomplete => exact h

/-! ## Sequences of requests -/

/-- **The last solution is the one that was returned last**, if there was one since the beginning
of the sequence. -/
theorem run_solution (session : Session) (requests : List Request) :
    (session.run requests).1.solver.solution
      = (((session.run requests).2.filterMap solutionOf).getLast?).or session.solver.solution := by
  induction requests generalizing session with
  | nil => rfl
  | cons request rest ih =>
    have hstep : (session.step request).1.solver.solution
        = (solutionOf (session.step request).2).or session.solver.solution :=
      respond_solution session request
    show ((session.step request).1.run rest).1.solver.solution
      = (((session.step request).2 :: ((session.step request).1.run rest).2).filterMap
          solutionOf).getLast?.or session.solver.solution
    rw [ih, hstep, List.filterMap_cons]
    -- The rest of the sequence has the last word, unless it returns nothing.
    cases solutionOf (session.step request).2 with
    | none => rfl
    | some S =>
      dsimp only
      rw [List.getLast?_cons]
      cases (((session.step request).1.run rest).2.filterMap solutionOf).getLast? with
      | none => rfl
      | some S' => rfl

theorem configured_run {session : Session} (h : session.solver.Configured)
    (requests : List Request) : (session.run requests).1.solver.Configured := by
  induction requests generalizing session with
  | nil => exact h
  | cons request rest ih => exact ih (configured_respond h request)

/-- A solver in use, after the given responses, compared with a new one. -/
structure LikeNew (session : Session) (responses : List Response) : Prop where
  /-- A new solver can be made from the five values of the configuration. -/
  constructible : session.solver.dimension < Solver.dimensionLimit →
    Solver.make (.int session.solver.dimension) (Solver.assignments session.solver.settings)
      = .ok (Solver.fresh session.solver.dimension session.solver.settings)
  /-- The new solver answers the same, be it with a solution or with a failure, and it reports the
  same on the way. -/
  answers (arguments : Arguments Float) : (session.solver.solve arguments).2
    = ((Solver.fresh session.solver.dimension session.solver.settings).solve arguments).2
  /-- The last solution is the one that was returned last. -/
  solution : session.solver.solution = (responses.filterMap solutionOf).getLast?

/-- **A solver is as good as new**, however it was made and whatever it was used for. -/
theorem likeNew_run {dimension : Datum} {options : List (String × Datum)} {solver : Solver Float}
    (h : Solver.ofOptions dimension options = .ok solver) (requests : List Request) :
    LikeNew (run { solver := solver } requests).1 (run { solver := solver } requests).2 := by
  obtain ⟨hconfigured, hnone⟩ := Solver.configured_of_ofOptions h
  refine ⟨?_, ?_, ?_⟩
  · exact Solver.make_configuration (configured_run hconfigured requests)
  · exact Solver.solve_eq_fresh _
  · rw [run_solution]
    show _ = (((run { solver := solver } requests).2.filterMap solutionOf).getLast?)
    rw [hnone, Option.or_none]

/-- A solve that breaks down, since the Hessian is negative, followed by a change of the dimension
and a solve whose arguments then have the wrong shapes. -/
def troubled : List Request :=
  let problem : ProblemArguments Float :=
    { hessian := .ok (.ofMatrix (Mat.identity 2).neg)
      linear := .ok (.ofVector (Vec.zero 2))
      lower := .ok (.ofVector #v[-1.0, -1.0])
      upper := .ok (.ofVector #v[1.0, 1.0]) }
  [.solve problem (.given (.ok (.ofVector #v[0.5, 0.0]))) false, .set "nx" (.ok (.int 3)),
    .solve problem (.given (.ok (.ofVector #v[0.5, 0.0]))) false]

theorem likeNew_troubled : Solver.ofOptions (.int 2) [] = .ok (.fresh 2 .standard) ∧
    LikeNew (run { solver := .fresh 2 .standard } troubled).1
      (run { solver := .fresh 2 .standard } troubled).2 := by
  have hnew : Solver.ofOptions (.int 2) [] = .ok (.fresh 2 .standard) := rfl
  exact ⟨hnew, likeNew_run hnew troubled⟩

end Session

end ProjectedNewton
