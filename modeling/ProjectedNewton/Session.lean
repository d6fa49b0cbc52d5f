import ProjectedNewton.Solver.Assignment
import ProjectedNewton.Solution.Text

/-!
# Sessions

A session is a sequence of requests to one solver. It remembers which solution each request
returned, so that a later solve can start from it and a later request can ask for it again, and
which request returned the solution that the solver holds.

Requests are numbered from zero on. Where a request refers to another one, the number may be missing
or belong to no earlier request; then there is no solution to refer to.
-/

namespace ProjectedNewton

/-- A solver in use. -/
structure Session where
  solver : Solver Float
  /-- What each request so far returned, if it was a solution. -/
  returned : Array (Option (SomeSolution Float)) := #[]
  /-- The request that returned the last solution. -/
  latest : Option Nat := none

/-- Where a solve starts. -/
inductive Start where
  | given (argument : Argument Float)
  /-- At the solution of another request. -/
  | solutionOf (request : Option Nat)

/-- A request to a solver in use. -/
inductive Request where
  /-- Solve a problem; the objective at the solution may be asked for. -/
  | solve (problem : ProblemArguments Float) (start : Start) (withValue : Bool)
  /-- Set a property to a value, if that could be read. -/
  | set (name : String) (value : Except ReadError Datum)
  | configuration
  | solution
  /-- What another request returned, and whether it is still the last solution. -/
  | returned (request : Option Nat)
  | description
  /-- A request that lacks something or asks for something else. -/
  | incomplete

/-- The dimension and the settings of a solver. -/
structure Configuration where
  dimension : Nat
  settings : Settings Float

/-- The answer to a request. -/
inductive Response where
  | solved (answer : Answer Float) (value : Option Float)
  | set (outcome : Except (Failure Float) Configuration)
  | configuration (c : Configuration) (stepLengths : List Float)
  | solution (s : Option (SomeSolution Float))
  | returned (s : Option (SomeSolution Float)) (isCurrent : Bool)
  | description (text : String)
  | incomplete

def Solver.configuration (solver : Solver Float) : Configuration :=
  ⟨solver.dimension, solver.settings⟩

/-- The objective at a solution, if the arguments describe an objective of its dimension. -/
def ProblemArguments.valueAt? (arguments : ProblemArguments Float) (s : SomeSolution Float) :
    Option Float := do
  let H ← (arguments.hessian.inShape .hessian [s.size, s.size]).toOption
  let q ← (arguments.linear.inShape .linear [s.size]).toOption
  return quadraticValue H q s.solution.x

namespace Session

/-- The solution that an earlier request returned. -/
def returnedBy (session : Session) (request : Option Nat) : Option (SomeSolution Float) :=
  request.bind fun i => session.returned[i]?.join

/-- The array from which a solve starts. There may be none. -/
def start? (session : Session) : Start → Option (Argument Float)
  | .given argument => some argument
  | .solutionOf request => (session.returnedBy request).map fun s => .ok (.ofVector s.solution.x)

/-- A solve and what it returned. -/
def solve (session : Session) (problem : ProblemArguments Float) (start : Start) :
    Session × Answer Float :=
  match session.start? start with
  | none => (session, ⟨.error .noSolution, #[]⟩)
  | some start =>
    let (solver, answer) := session.solver.solve { problem with start := start }
    let latest := match answer.outcome with
      | .ok _ => some session.returned.size
      | .error _ => session.latest
    ({ session with solver := solver, latest := latest }, answer)

/-- The answer to a request, and the session after it, in which nothing is noted as returned yet. -/
def respond (session : Session) : Request → Session × Response
  | .solve problem start withValue =>
    let (session, answer) := session.solve problem start
    let value := if withValue then answer.outcome.toOption.bind problem.valueAt? else none
    (session, .solved answer value)
  | .set _ (.error e) => (session, .set (.error (.unreadable e)))
  | .set name (.ok d) =>
    let assigned := session.solver.set d (.ofName name)
    ({ session with solver := assigned.solver },
      .set (assigned.outcome.map Solver.configuration))
  | .configuration => (session, .configuration session.solver.configuration stepLengths)
  | .solution => (session, .solution session.solver.solution)
  | .returned request =>
    let returned := session.returnedBy request
    let isCurrent := match returned with
      | some _ => session.latest == request
      | none => session.latest.isNone
    (session, .returned returned isCurrent)
  | .description => (session, .description (describeOptional session.solver.solution))
  | .incomplete => (session, .incomplete)

/-- The solution that a response returns. -/
def solutionOf : Response → Option (SomeSolution Float)
  | .solved answer _ => answer.outcome.toOption
  | _ => none

/-- One request with its answer. -/
def step (session : Session) (request : Request) : Session × Response :=
  let (session, response) := session.respond request
  ({ session with returned := session.returned.push (solutionOf response) }, response)

/-- A sequence of requests with their answers. -/
def run (session : Session) : List Request → Session × List Response
  | [] => (session, [])
  | request :: rest =>
    let (session, response) := session.step request
    let (session, responses) := session.run rest
    (session, response :: responses)

end Session

end ProjectedNewton
