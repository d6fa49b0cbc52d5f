import ProjectedNewton.Solver

/-!
# Changing the settings

A setting takes values of any kind and admits some of them. The dimension and the largest number of
iterations must be integers, and truth values are not; the three real settings are numbers in a
wider sense, compared exactly with the ends of their range before they are rounded to a double.

An assignment changes its own setting and nothing else, or fails and changes nothing. A new
dimension also renews the working memory; the last solution stays. One case lies between: a
dimension that is too large for any working memory is reported as a failure, and stays.
-/

namespace ProjectedNewton

/-! ## Admitted values -/

/-- An integer that is at least `least`. -/
def readCount (setting : Setting) (least : Nat) (d : Datum) : Except (Failure Float) Nat :=
  match d.int? with
  | some n => if (least : Int) ≤ n then .ok n.toNat else .error (.rejected (.outOfRange setting))
  | none => .error (.rejected (.outOfRange setting))

/-- A number that is admitted, as a double. -/
def readReal (setting : Setting) (admits : Number → Bool) (d : Datum) :
    Except (Failure Float) Float :=
  match d.number? with
  | none => .error (.unreadable .wrongKind)
  | some x =>
    if admits x then x.toFloat.mapError .unreadable else .error (.rejected (.outOfRange setting))

/-- The value of the dimension. -/
def readDimension (d : Datum) : Except (Failure Float) Nat := readCount .dimension 1 d

namespace Settings

/-- The settings with a new largest number of iterations. -/
def setMaxIterations (s : Settings Float) (d : Datum) :
    Except (Failure Float) (Settings Float) := do
  return { s with maxIterations := ← readCount .maxIterations 0 d }

/-- The settings with a new share of the predicted decrease. -/
def setAcceptStepThreshold (s : Settings Float) (d : Datum) :
    Except (Failure Float) (Settings Float) := do
  return { s with
    acceptStepThreshold := ← readReal .acceptStepThreshold Number.isProperFraction d }

/-- The settings with a new tolerance. -/
def setGradThreshold (s : Settings Float) (d : Datum) :
    Except (Failure Float) (Settings Float) := do
  return { s with gradThreshold := ← readReal .gradThreshold Number.isNonneg d }

/-- The settings with a new regularization. -/
def setRegularization (s : Settings Float) (d : Datum) :
    Except (Failure Float) (Settings Float) := do
  return { s with regularization := ← readReal .regularization Number.isNonneg d }

end Settings

/-! ## Assignments -/

/-- What a name of a solver stands for. -/
inductive Property where
  | setting (s : Setting)
  /-- The step lengths and the last solution can be read but not set. -/
  | readOnly
  /-- Any other name: setting it does not touch the solver. -/
  | unrelated

/-- The names that can only be read. -/
def readOnlyNames : List String := ["alphas", "solution"]

def Property.ofName (name : String) : Property :=
  match Setting.ofName? name with
  | some s => .setting s
  | none => if name ∈ readOnlyNames then .readOnly else .unrelated

/-- A solver after an assignment, and why the assignment failed, if it did. -/
structure Assigned where
  solver : Solver Float
  failure? : Option (Failure Float) := none

/-- The solver, or the failure. -/
def Assigned.outcome (a : Assigned) : Except (Failure Float) (Solver Float) :=
  a.failure?.elim (.ok a.solver) .error

namespace Solver

/-- From this dimension on there is no working memory: a vector of doubles would take more than the
`2 ^ 63 - 1` bytes that can be addressed. -/
def dimensionLimit : Nat := Nat.pow 2 60

/-- The solver with another dimension and renewed working memory. -/
def resize (solver : Solver Float) (dimension : Nat) : Solver Float :=
  ⟨dimension, solver.settings, Memory.fresh dimension solver.solution⟩

/-- The solver with a new dimension. If there is no working memory for it, the assignment fails,
but the dimension stays: until another one is assigned, no arguments have the right shape. -/
def assignDimension (solver : Solver Float) (d : Datum) : Assigned :=
  match readDimension d with
  | .error e => ⟨solver, some e⟩
  | .ok n =>
    { solver := solver.resize n
      failure? := if n < dimensionLimit then none else some .tooManyCoordinates }

/-- The solver with new settings, or as it is if there are none. -/
def assignSettings (solver : Solver Float) : Except (Failure Float) (Settings Float) → Assigned
  | .ok settings => { solver := { solver with settings := settings } }
  | .error e => ⟨solver, some e⟩

/-- The solver with another value of a setting. -/
def assign (solver : Solver Float) (d : Datum) : Setting → Assigned
  | .dimension => solver.assignDimension d
  | .maxIterations => solver.assignSettings (solver.settings.setMaxIterations d)
  | .acceptStepThreshold => solver.assignSettings (solver.settings.setAcceptStepThreshold d)
  | .gradThreshold => solver.assignSettings (solver.settings.setGradThreshold d)
  | .regularization => solver.assignSettings (solver.settings.setRegularization d)

/-- The solver after its property is set. -/
def set (solver : Solver Float) (d : Datum) : Property → Assigned
  | .setting s => solver.assign d s
  | .readOnly => ⟨solver, some .readOnly⟩
  | .unrelated => { solver := solver }

/-! ## Construction -/

/-- The settings that may be given when a solver is made, in the order in which they are checked. -/
def optional : List Setting :=
  [.maxIterations, .acceptStepThreshold, .gradThreshold, .regularization]

/-- A new solver with the given values of settings and standard values for the others. -/
def make (dimension : Datum) (given : Setting → Option Datum) :
    Except (Failure Float) (Solver Float) := do
  let solver ← ((fresh 1 Settings.standard).assignDimension dimension).outcome
  optional.foldlM
    (fun solver s => match given s with
      | some d => (solver.assign d s).outcome
      | none => .ok solver)
    solver

/-- A new solver with options given by name. A name that no option has is refused first. -/
def ofOptions (dimension : Datum) (options : List (String × Datum)) :
    Except (Failure Float) (Solver Float) :=
  if options.all fun (name, _) => optional.any fun s => s.name == name then
    make dimension fun s => options.lookup s.name
  else .error .unknownOption

end Solver

end ProjectedNewton
