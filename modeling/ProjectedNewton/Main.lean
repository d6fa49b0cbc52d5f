import ProjectedNewton.Control.Demonstration

/-!
# The command line

Runs the demonstration and writes its lines to the standard error.
-/

open ProjectedNewton

def main : IO UInt32 := do
  match Demonstration.lines with
  | .ok lines =>
    for line in lines do
      IO.eprintln line
    return 0
  | .error _ => return 1
