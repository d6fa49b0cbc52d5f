import ProjectedNewton.Cholesky
import ProjectedNewton.LineSearch
import ProjectedNewton.Solution

/-!
# Runs

One run of the projected Newton method. `Run.step` is one iteration: it splits the coordinates at
the current iterate, stops there if the gradient is flat or nothing is free, and otherwise takes a
Newton step on the free coordinates with a projected line search. `Run.advance` repeats the step
until the run ends or the given number of iterations is used up; an unfinished run can be advanced
further, so `advance (k + l)` is `advance k` followed by `advance l`.

With the clamped coordinates held where they are, the objective is quadratic in the free ones and
stationary where `H_ff z = -q_f - H_fc x_c`. The Newton direction leads from the free coordinates of
`x` to `z` and is zero on the clamped ones. The system is solved with the factorization of the
regularized `H_ff`.

A run works in the memory that its solver lends it. What an earlier run left there is overwritten
before it is read.

An iteration that stops before it has factorized anything has no inverse to return. In the first
iteration it therefore factorizes all the same, and may fail; in a later one it returns the inverse
of the iteration before.
-/

namespace ProjectedNewton

open Scalar

/-! ## Settings -/

/-- The parameters of a solver. -/
structure Settings (α : Type) where
  /-- The largest number of iterations. -/
  maxIterations : Nat
  /-- The share of the linearly predicted decrease that an accepted step must reach. -/
  acceptStepThreshold : α
  /-- The tolerance on the largest entry of the gradient and of the Newton step. -/
  gradThreshold : α
  /-- What is added to the diagonal of the Hessian of the free coordinates. -/
  regularization : α

/-- The settings that apply unless others are given: at most 100 iterations, a tenth of the
predicted decrease, a tolerance of `1e-5`, and `1e-9` added to the diagonal. -/
def Settings.standard : Settings Float where
  maxIterations := 100
  acceptStepThreshold := 0.1
  gradThreshold := 1e-5
  regularization := 1e-9

/-- The real settings are in the ranges that are checked when a solver is made or changed. -/
structure Settings.Admissible {α : Type} [Scalar α] (s : Settings α) : Prop where
  acceptStepThreshold_pos : lt 0 s.acceptStepThreshold
  acceptStepThreshold_lt_one : lt s.acceptStepThreshold 1
  gradThreshold_nonneg : le 0 s.gradThreshold
  regularization_nonneg : le 0 s.regularization

/-! ## Runs and what comes out of them -/

/-- The working memory of a run on `n` coordinates. -/
structure Workspace (α : Type) (n : Nat) where
  iterate : Vec α n
  /-- The last point tried by a line search. -/
  candidate : Vec α n
  /-- The gradient at the iterate. -/
  gradient : Vec α n
  /-- The last Newton direction. -/
  direction : Vec α n
  /-- The inverse from the last factorization. -/
  inverse : Square α

/-- What comes out of a run: a solution or an error, and what was reported on the way. -/
structure Report (α : Type) (n : Nat) where
  outcome : Except (FactorizationError α) (Solution α n)
  trace : Trace α

/-- A run in progress. -/
structure Run (α : Type) (n : Nat) where
  workspace : Workspace α n
  /-- The free and clamped coordinates of the last iteration. -/
  partition : Partition n
  /-- The number of iterations so far. -/
  iterations : Nat
  trace : Trace α

/-- A run after some iterations. -/
inductive Progress (α : Type) (n : Nat) where
  /-- The run can go on. -/
  | running (run : Run α n)
  /-- The run stopped with a solution. -/
  | stopped (run : Run α n) (status : Status)
  /-- A factorization failed. -/
  | broken (run : Run α n) (error : FactorizationError α)

variable {α : Type} {n : Nat}

namespace Run

/-! ## Bookkeeping -/

/-- Keeps the inverse of a factorization. -/
def keepInverse {k : Nat} (r : Run α n) (F : Factorization α k) : Run α n :=
  { r with workspace := { r.workspace with inverse := ⟨k, F.inverse⟩ } }

/-- Counts one more iteration. -/
def count (r : Run α n) : Run α n := { r with iterations := r.iterations + 1 }

/-! ## The end of a run -/

/-- The solution at which a run ended. -/
def solution (r : Run α n) (status : Status) : Solution α n where
  x := r.workspace.iterate
  partition := r.partition
  inverse := r.workspace.inverse
  iterations := r.iterations
  status := status

/-- The solution at which a run ended, with the report of it. -/
def finish (r : Run α n) (status : Status) : Report α n where
  outcome := .ok (r.solution status)
  trace := r.trace.push (.result status r.iterations r.partition.free.length
    r.partition.clamped.length)

end Run

namespace Progress

/-- The run in its last state. -/
def run : Progress α n → Run α n
  | running r => r
  | stopped r _ => r
  | broken r _ => r

/-- What a run has to show when it is not continued. -/
def report : Progress α n → Report α n
  | running r => r.finish .maxIterations
  | stopped r status => r.finish status
  | broken r error => ⟨.error error, r.trace⟩

end Progress

variable [Scalar α]

/-! ## The Newton step -/

namespace Problem

variable (p : Problem α n) (part : Partition n)

/-- The factorization of the regularized Hessian of the free coordinates. -/
def factorizeFree (regularization : α) :
    Except (FactorizationError α) (Factorization α part.free.length) :=
  Factorization.make (p.freeHessian part) regularization

/-- This factorization, if it can be made. -/
def factorizeFree? (regularization : α) : Option (Factorization α part.free.length) :=
  Factorization.of? (p.freeHessian part) regularization

variable (F : Factorization α part.free.length) (x : Vec α n)

/-- The right side `-q_f - H_fc x_c` of the system for the free coordinates. -/
def newtonRightSide : Vec α part.free.length :=
  (p.linear.pick part.free).neg.sub ((p.crossHessian part).mulVec (x.pick part.clamped))

/-- The free coordinates of the point to which a full Newton step leads. -/
def newtonTarget : Vec α part.free.length := F.solve (p.newtonRightSide part x)

/-- The direction of the Newton step from `x`. -/
def newtonDirection : Vec α n :=
  Vec.spread part.free ((p.newtonTarget part F x).sub (x.pick part.free))

end Problem

/-- A workspace of zeros that holds no inverse. -/
def Workspace.fresh (n : Nat) : Workspace α n :=
  ⟨Vec.zero n, Vec.zero n, Vec.zero n, Vec.zero n, Square.empty⟩

namespace Run

/-! ## One iteration -/

/-- Brings gradient and partition up to date with the iterate. -/
def observe (p : Problem α n) (r : Run α n) : Run α n :=
  let x := r.workspace.iterate
  let g := p.gradient x
  { r with workspace := { r.workspace with gradient := g }, partition := p.partition x g }

/-- The largest absolute value of an entry of the gradient. -/
def gradientNorm (r : Run α n) : α := r.workspace.gradient.maxAbs

/-- The line search from the iterate along the Newton direction. -/
def lineSearch (p : Problem α n) (s : Settings α) (r : Run α n) : LineSearch α n where
  problem := p
  start := r.workspace.iterate
  gradient := r.workspace.gradient
  direction := r.workspace.direction
  threshold := s.acceptStepThreshold

/-- Carries out the line search and reports it. The iterate moves to the accepted candidate, or
stays where it is if there is none. -/
def descend (p : Problem α n) (s : Settings α) (r : Run α n) : Run α n :=
  let search := r.lineSearch p s
  let clamped := r.partition.clamped.length
  let w := { r.workspace with candidate := search.candidate search.lastLength }
  match search.acceptedLength with
  | some a =>
    { r with
      workspace := { w with iterate := w.candidate }
      trace := r.trace.push (.stepTaken r.iterations (p.value w.candidate) r.gradientNorm
        (search.reduction a) a clamped) }
  | none =>
    { r with
      workspace := w
      trace := r.trace.push (.searchExhausted r.iterations (p.value w.iterate) r.gradientNorm
        clamped) }

/-- Stops without a Newton step. The first iteration still factorizes, so that there is an
inverse to return. -/
def stop (p : Problem α n) (s : Settings α) (r : Run α n) (status : Status) : Progress α n :=
  if r.iterations = 0 then
    match p.factorizeFree r.partition s.regularization with
    | .error e => .broken r e
    | .ok F => .stopped (r.keepInverse F).count status
  else .stopped r.count status

/-- Takes the Newton step along the free coordinates, unless it is within the tolerance. -/
def newton (p : Problem α n) (s : Settings α) (r : Run α n) : Progress α n :=
  match p.factorizeFree r.partition s.regularization with
  | .error e => .broken r e
  | .ok F =>
    let d := p.newtonDirection r.partition F r.workspace.iterate
    let r := (r.keepInverse F).count
    let r := { r with workspace := { r.workspace with direction := d } }
    if lt d.maxAbs s.gradThreshold then .stopped r .step else .running (r.descend p s)

/-- One iteration. -/
def step (p : Problem α n) (s : Settings α) (r : Run α n) : Progress α n :=
  let r := r.observe p
  if le r.gradientNorm s.gradThreshold then r.stop p s .gradient
  else if r.partition.free.isEmpty then r.stop p s .clamped
  else r.newton p s

/-! ## The whole run -/

/-- At most `budget` further iterations. -/
def advance (p : Problem α n) (s : Settings α) : Nat → Run α n → Progress α n
  | 0, r => .running r
  | budget + 1, r => match r.step p s with
    | .running r => advance p s budget r
    | ended => ended

/-- A budget can be spent in two parts. -/
theorem advance_add (p : Problem α n) (s : Settings α) (k l : Nat) (r : Run α n) :
    r.advance p s (k + l) = match r.advance p s k with
      | .running r => r.advance p s l
      | ended => ended := by
  induction k generalizing r with
  | zero => simp [advance]
  | succ k ih =>
    rw [Nat.succ_add, advance, advance]
    cases r.step p s with
    | running r => exact ih r
    | stopped r status => rfl
    | broken r error => rfl

/-- The beginning of a run at the point of the box nearest to `start`. -/
def start (w : Workspace α n) (p : Problem α n) (start : Vec α n) : Run α n :=
  observe p
    { workspace := { w with iterate := p.project start }
      partition := ⟨[], []⟩
      iterations := 0
      trace := #[] }

end Run

/-- A whole run from `start`, and the workspace as it leaves it. A run without any iteration
returns the projected start, split into free and clamped coordinates, and no inverse. -/
def Workspace.solve (w : Workspace α n) (s : Settings α) (p : Problem α n) (start : Vec α n) :
    Workspace α n × Report α n :=
  let r := Run.start w p start
  if s.maxIterations = 0 then
    let w := { r.workspace with inverse := Square.empty }
    (w, { r with workspace := w }.finish .maxIterations)
  else
    let progress := r.advance p s s.maxIterations
    (progress.run.workspace, progress.report)

end ProjectedNewton
