import ProjectedNewton.Solution
import ProjectedNewton.Text.ArrayLayout
import ProjectedNewton.Text.Literal

/-!
# The text of solutions and traces

A solution is described by its point, its free and clamped coordinates and its status. A trace has
one line for every event.
-/

namespace ProjectedNewton

open Decimal Text

/-! ## Descriptions -/

/-- The description of a point with lists of free and clamped coordinates and a status. -/
def describe (x : Tensor Float) (free clamped : List Int) (status : String) : String :=
  "BoxQPSolution(x=" ++ arrayText x ++ ", free_indices=" ++ indexList free ++
    ", clamped_indices=" ++ indexList clamped ++ ", status=" ++ quoted status ++ ")"

/-- The positions of a list as integers. -/
def positions {n : Nat} (indices : List (Fin n)) : List Int := indices.map fun i => (i.val : Int)

/-- The description of a solution. -/
def SomeSolution.description (s : SomeSolution Float) : String :=
  describe (.ofVector s.solution.x) (positions s.solution.partition.free)
    (positions s.solution.partition.clamped) s.solution.status.name

/-- The description of a solution that may be missing. -/
def describeOptional : Option (SomeSolution Float) → String
  | some s => s.description
  | none => "None"

/-! ## Lines of a trace -/

namespace Event

/-- The objective: six digits, and a blank for the sign. -/
def valueField : GeneralField := { width := 12, signBlank := true }

/-- The gradient norm and the decrease of the objective: three digits. -/
def normField : GeneralField := { precision := 3, width := 9 }

/-- A step length. -/
def lengthField : GeneralField := { width := 8 }

/-- The beginning of the line of an iteration. -/
def iterationText (iteration : Nat) (value gradientNorm : Float) : String :=
  "iter " ++ padRight 3 (toString iteration) ++ "  value " ++ valueField.render value ++
    " |g| " ++ normField.render gradientNorm

/-- The line of an event. -/
def text : Event Float → String
  | stepTaken iteration value gradientNorm reduction length clamped =>
    iterationText iteration value gradientNorm ++ "  reduction " ++ normField.render reduction ++
      "  step " ++ lengthField.render length ++ "  n_clamped " ++ toString clamped
  | searchExhausted iteration value gradientNorm clamped =>
    iterationText iteration value gradientNorm ++ "  NO STEP (line search exhausted)  n_clamped " ++
      toString clamped
  | result status iterations free clamped =>
    "RESULT: " ++ status.message ++ ". iterations " ++ toString iterations ++ "  n_free " ++
      toString free ++ "  n_clamped " ++ toString clamped

end Event

end ProjectedNewton
