import ProjectedNewton.Run

/-!
# What an iteration does

`Run.step` unfolded once and for all. What an iteration does depends on the iterate `x` alone, apart
from one thing: whether it is the first one, which factorizes before it stops.

* `Problem.split p x` is the partition at `x`, `Problem.stopStatus? p s x` the status with which an
  iteration at `x` stops before the Newton step, if it does.
* `Problem.search p s x F` is the line search from `x` along the Newton direction, for a
  factorization `F` of the free Hessian, and `LineSearch.landing` the point where it ends.
* `Run.StepCase` lists the five ways an iteration can go, and `Run.step_cases` says that there are
  no others.
-/

namespace ProjectedNewton

open Scalar

variable {α : Type} [Scalar α] {n : Nat}

/-! ## The parts of an iteration -/

/-- An error in the factorization of a matrix with so many rows and the regularization `r`. -/
inductive FactorizationError.Concerns (size : Nat) (r : α) : FactorizationError α → Prop
  | notPositiveDefinite : Concerns size r (.notPositiveDefinite ⟨size, r⟩)
  | singular : Concerns size r .singular

/-- The point where a search ends: the accepted candidate, or its start if there is none. -/
def LineSearch.landing (l : LineSearch α n) : Vec α n :=
  match l.acceptedLength with
  | some a => l.candidate a
  | none => l.start

namespace Problem

variable (p : Problem α n) (s : Settings α) (x : Vec α n)

/-- The free and clamped coordinates of `x`. -/
def split : Partition n := p.partition x (p.gradient x)

/-- The status with which an iteration at `x` stops before the Newton step. -/
def stopStatus? : Option Status :=
  if le (p.gradient x).maxAbs s.gradThreshold then some .gradient
  else if (p.split x).free.isEmpty then some .clamped
  else none

/-- The factorization of the regularized Hessian of the free coordinates of `x`. -/
def factorizeAt : Except (FactorizationError α) (Factorization α (p.split x).free.length) :=
  p.factorizeFree (p.split x) s.regularization

/-- This factorization, if it can be made. -/
def factorizeAt? : Option (Factorization α (p.split x).free.length) :=
  p.factorizeFree? (p.split x) s.regularization

section Factored

variable {p s x}

/-- **A factorization fails with one of two errors**, the first of which tells what was to be
factorized. -/
theorem concerns_of_factorizeAt {e : FactorizationError α} (h : p.factorizeAt s x = .error e) :
    e.Concerns (p.split x).free.length s.regularization := by
  change Factorization.make _ _ = _ at h
  unfold Factorization.make at h
  split at h
  · cases h
    exact .notPositiveDefinite
  · dsimp only at h
    split at h
    · cases h
      exact .singular
    · cases h

theorem factorizeAt_eq_ok {F : Factorization α (p.split x).free.length}
    (h : p.factorizeAt? s x = some F) : p.factorizeAt s x = .ok F := by
  change (p.factorizeAt s x).toOption = some F at h
  cases hF : p.factorizeAt s x with
  | ok G =>
    rw [hF] at h
    cases h
    rfl
  | error e =>
    rw [hF] at h
    cases h

theorem exists_factorizeAt_eq_error (h : p.factorizeAt? s x = none) :
    ∃ e, p.factorizeAt s x = .error e := by
  change (p.factorizeAt s x).toOption = none at h
  cases hF : p.factorizeAt s x with
  | ok F =>
    rw [hF] at h
    cases h
  | error e => exact ⟨e, rfl⟩

theorem factorizeAt?_eq_none {e : FactorizationError α} (h : p.factorizeAt s x = .error e) :
    p.factorizeAt? s x = none :=
  congrArg Except.toOption h

theorem factorizeAt?_eq_some {F : Factorization α (p.split x).free.length}
    (h : p.factorizeAt s x = .ok F) : p.factorizeAt? s x = some F :=
  congrArg Except.toOption h

end Factored

variable (F : Factorization α (p.split x).free.length)

/-- The Newton direction at `x`. -/
def directionAt : Vec α n := p.newtonDirection (p.split x) F x

/-- The line search of an iteration at `x`. -/
def search : LineSearch α n where
  problem := p
  start := x
  gradient := p.gradient x
  direction := p.directionAt x F
  threshold := s.acceptStepThreshold

end Problem

namespace Run

variable (p : Problem α n) (s : Settings α) (r : Run α n)

/-- The run after its Newton direction is found. -/
def direct (F : Factorization α (p.split r.workspace.iterate).free.length) : Run α n :=
  let q := ((r.observe p).keepInverse F).count
  { q with workspace := { q.workspace with direction := p.directionAt r.workspace.iterate F } }

/-! ## The fields of a run -/

@[simp] theorem observe_iterations : (r.observe p).iterations = r.iterations := rfl

variable (F : Factorization α (p.split r.workspace.iterate).free.length)

/-- The line search moves the iterate to its landing point and touches neither partition nor
inverse nor count. -/
theorem descend_fields (q : Run α n) :
    (q.descend p s).workspace.iterate = (q.lineSearch p s).landing ∧
      (q.descend p s).workspace.inverse = q.workspace.inverse ∧
      (q.descend p s).partition = q.partition ∧ (q.descend p s).iterations = q.iterations := by
  unfold descend LineSearch.landing LineSearch.lastLength
  dsimp only
  cases (q.lineSearch p s).acceptedLength with
  | none => exact ⟨rfl, rfl, rfl, rfl⟩
  | some a => exact ⟨rfl, rfl, rfl, rfl⟩

@[simp] theorem descend_direct_iterate :
    ((r.direct p F).descend p s).workspace.iterate
      = (p.search s r.workspace.iterate F).landing :=
  (descend_fields p s (r.direct p F)).1

@[simp] theorem descend_direct_inverse :
    ((r.direct p F).descend p s).workspace.inverse = ⟨_, F.inverse⟩ :=
  (descend_fields p s (r.direct p F)).2.1

@[simp] theorem descend_direct_partition :
    ((r.direct p F).descend p s).partition = p.split r.workspace.iterate :=
  (descend_fields p s (r.direct p F)).2.2.1

@[simp] theorem descend_direct_iterations :
    ((r.direct p F).descend p s).iterations = r.iterations + 1 :=
  (descend_fields p s (r.direct p F)).2.2.2

/-- The solution after a Newton step has the partition and the inverse from before the step. -/
theorem solution_descend_direct (status : Status) :
    ((r.direct p F).descend p s).solution status
      = ⟨(p.search s r.workspace.iterate F).landing, p.split r.workspace.iterate, ⟨_, F.inverse⟩,
          r.iterations + 1, status⟩ := by
  unfold solution
  rw [descend_direct_iterate, descend_direct_partition, descend_direct_inverse,
    descend_direct_iterations]

/-! ## The cases of an iteration -/

/-- The ways an iteration from `r` can go. -/
inductive StepCase : Progress α n → Prop
  /-- The free Hessian is not factorized. This does not matter to a later iteration that stops
  before the Newton step. -/
  | singular {e : FactorizationError α} (failed : p.factorizeAt s r.workspace.iterate = .error e)
      (needed : r.iterations = 0 ∨ p.stopStatus? s r.workspace.iterate = none) :
      StepCase (.broken (r.observe p) e)
  /-- The first iteration stops before the Newton step, with a factorization made for its end. -/
  | stopsFirst {status : Status} {F : Factorization α (p.split r.workspace.iterate).free.length}
      (stops : p.stopStatus? s r.workspace.iterate = some status) (first : r.iterations = 0)
      (factored : p.factorizeAt? s r.workspace.iterate = some F) :
      StepCase (.stopped ((r.observe p).keepInverse F).count status)
  /-- A later iteration stops before the Newton step. -/
  | stopsLater {status : Status} (stops : p.stopStatus? s r.workspace.iterate = some status)
      (later : r.iterations ≠ 0) : StepCase (.stopped (r.observe p).count status)
  /-- The Newton step is within the tolerance. -/
  | short {F : Factorization α (p.split r.workspace.iterate).free.length}
      (goesOn : p.stopStatus? s r.workspace.iterate = none)
      (factored : p.factorizeAt? s r.workspace.iterate = some F)
      (small : lt (p.directionAt r.workspace.iterate F).maxAbs s.gradThreshold) :
      StepCase (.stopped (r.direct p F) .step)
  /-- The line search is carried out. -/
  | searched {F : Factorization α (p.split r.workspace.iterate).free.length}
      (goesOn : p.stopStatus? s r.workspace.iterate = none)
      (factored : p.factorizeAt? s r.workspace.iterate = some F)
      (large : lt (p.directionAt r.workspace.iterate F).maxAbs s.gradThreshold = false) :
      StepCase (.running ((r.direct p F).descend p s))

theorem step_eq :
    r.step p s = match p.stopStatus? s r.workspace.iterate with
      | some status => (r.observe p).stop p s status
      | none => (r.observe p).newton p s := by
  show (if le (p.gradient r.workspace.iterate).maxAbs s.gradThreshold then _ else
    if (p.split r.workspace.iterate).free.isEmpty then _ else _) = _
  unfold Problem.stopStatus?
  split
  · rfl
  · split <;> rfl

theorem newton_of_error {e : FactorizationError α}
    (h : p.factorizeAt s r.workspace.iterate = .error e) :
    (r.observe p).newton p s = .broken (r.observe p) e := by
  have hF : p.factorizeFree (r.observe p).partition s.regularization = .error e := h
  unfold newton
  rw [hF]

theorem newton_of_some {F : Factorization α (p.split r.workspace.iterate).free.length}
    (h : p.factorizeAt? s r.workspace.iterate = some F) : (r.observe p).newton p s
      = if lt (p.directionAt r.workspace.iterate F).maxAbs s.gradThreshold then
          .stopped (r.direct p F) .step else .running ((r.direct p F).descend p s) := by
  have hF : p.factorizeFree (r.observe p).partition s.regularization = .ok F :=
    Problem.factorizeAt_eq_ok h
  unfold newton
  rw [hF]
  rfl

/-- **An iteration goes one of five ways.** -/
theorem step_cases : StepCase p s r (r.step p s) := by
  rw [step_eq]
  split
  · next status hstop =>
    unfold stop
    split
    · next hfirst =>
      split
      · next e hF => exact .singular hF (Or.inl hfirst)
      · next F hF => exact .stopsFirst hstop hfirst (Problem.factorizeAt?_eq_some hF)
    · next hlater => exact .stopsLater hstop hlater
  · next hstop =>
    cases hF : p.factorizeAt s r.workspace.iterate with
    | error e =>
      rw [newton_of_error p s r hF]
      exact .singular hF (Or.inr hstop)
    | ok F =>
      have hsome : p.factorizeAt? s r.workspace.iterate = some F := Problem.factorizeAt?_eq_some hF
      rw [newton_of_some p s r hsome]
      split
      · next hsmall => exact .short hstop hsome hsmall
      · next hlarge => exact .searched hstop hsome (Bool.eq_false_iff.mpr hlarge)

variable {p s r} {q : Run α n} {status : Status}

/-- A first iteration that can stop and can factorize does so. -/
theorem step_of_stops {F : Factorization α (p.split r.workspace.iterate).free.length}
    (hstop : p.stopStatus? s r.workspace.iterate = some status) (hfirst : r.iterations = 0)
    (hF : p.factorizeAt? s r.workspace.iterate = some F) :
    r.step p s = .stopped ((r.observe p).keepInverse F).count status := by
  have hcase : StepCase p s r (r.step p s) := step_cases p s r
  generalize r.step p s = e at hcase
  cases hcase with
  | singular failed needed =>
    have hnone := Problem.factorizeAt?_eq_none failed
    rw [hF] at hnone
    cases hnone
  | stopsFirst stops first factored =>
    rw [hstop] at stops
    rw [hF] at factored
    cases stops
    cases factored
    rfl
  | stopsLater stops later => exact absurd hfirst later
  | short goesOn factored small => rw [hstop] at goesOn; cases goesOn
  | searched goesOn factored large => rw [hstop] at goesOn; cases goesOn

/-- An iteration that neither stops nor breaks down carries out its line search. -/
theorem step_of_newton {F : Factorization α (p.split r.workspace.iterate).free.length}
    (hgoes : p.stopStatus? s r.workspace.iterate = none)
    (hF : p.factorizeAt? s r.workspace.iterate = some F)
    (hlarge : lt (p.directionAt r.workspace.iterate F).maxAbs s.gradThreshold = false) :
    r.step p s = .running ((r.direct p F).descend p s) := by
  rw [step_eq, hgoes]
  dsimp only
  rw [newton_of_some p s r hF, if_neg (Bool.eq_false_iff.mp hlarge)]

/-- An iteration whose Newton step is within the tolerance stops with it. -/
theorem step_of_short {F : Factorization α (p.split r.workspace.iterate).free.length}
    (hgoes : p.stopStatus? s r.workspace.iterate = none)
    (hF : p.factorizeAt? s r.workspace.iterate = some F)
    (hsmall : lt (p.directionAt r.workspace.iterate F).maxAbs s.gradThreshold) :
    r.step p s = .stopped (r.direct p F) .step := by
  rw [step_eq, hgoes]
  dsimp only
  rw [newton_of_some p s r hF, if_pos hsmall]

/-- An iteration that needs a factorization and cannot make it breaks down. -/
theorem step_of_singular {e : FactorizationError α}
    (hF : p.factorizeAt s r.workspace.iterate = .error e)
    (hneeded : r.iterations = 0 ∨ p.stopStatus? s r.workspace.iterate = none) :
    r.step p s = .broken (r.observe p) e := by
  have hnone := Problem.factorizeAt?_eq_none hF
  have hcase : StepCase p s r (r.step p s) := step_cases p s r
  generalize r.step p s = progress at hcase
  cases hcase with
  | singular failed needed =>
    rw [hF] at failed
    cases failed
    rfl
  | stopsFirst stops first factored => rw [hnone] at factored; cases factored
  | stopsLater stops later =>
    rcases hneeded with hfirst | hgoes
    · exact absurd hfirst later
    · rw [hgoes] at stops
      cases stops
  | short goesOn factored small => rw [hnone] at factored; cases factored
  | searched goesOn factored large => rw [hnone] at factored; cases factored

/-- A later iteration that can stop does so, with the inverse that it finds. -/
theorem step_of_stops_later (hstop : p.stopStatus? s r.workspace.iterate = some status)
    (hlater : r.iterations ≠ 0) : r.step p s = .stopped (r.observe p).count status := by
  rw [step_eq, hstop]
  exact if_neg hlater

/-- An iteration that stops leaves the iterate where it is, and returns its split. -/
theorem fields_of_stopped (h : r.step p s = .stopped q status) :
    q.workspace.iterate = r.workspace.iterate ∧ q.partition = p.split r.workspace.iterate := by
  have hcase : StepCase p s r (r.step p s) := step_cases p s r
  rw [h] at hcase
  cases hcase with
  | stopsFirst stops first factored => exact ⟨rfl, rfl⟩
  | stopsLater stops later => exact ⟨rfl, rfl⟩
  | short goesOn factored small => exact ⟨rfl, rfl⟩

/-- An iteration that goes on moves the iterate to the landing point of its line search, and keeps
the split of the iterate it came from. -/
theorem fields_of_running (h : r.step p s = .running q) :
    ∃ F, p.factorizeAt? s r.workspace.iterate = some F ∧
      q.workspace.iterate = (p.search s r.workspace.iterate F).landing ∧
      q.partition = p.split r.workspace.iterate := by
  have hcase : StepCase p s r (r.step p s) := step_cases p s r
  rw [h] at hcase
  cases hcase with
  | searched goesOn factored large =>
    exact ⟨_, factored, descend_direct_iterate p s r _, descend_direct_partition p s r _⟩

/-- An iteration breaks down on the free Hessian of the iterate. -/
theorem factorizeAt_of_broken {e : FactorizationError α} (h : r.step p s = .broken q e) :
    p.factorizeAt s r.workspace.iterate = .error e := by
  have hcase : StepCase p s r (r.step p s) := step_cases p s r
  rw [h] at hcase
  cases hcase with
  | singular failed needed => exact failed

/-- An iteration that stops is counted. -/
theorem iterations_of_stopped (h : r.step p s = .stopped q status) :
    q.iterations = r.iterations + 1 := by
  have hcase : StepCase p s r (r.step p s) := step_cases p s r
  rw [h] at hcase
  cases hcase with
  | stopsFirst stops first factored => rfl
  | stopsLater stops later => rfl
  | short goesOn factored small => rfl

/-- An iteration that goes on is counted. -/
theorem iterations_of_running (h : r.step p s = .running q) :
    q.iterations = r.iterations + 1 := by
  have hcase : StepCase p s r (r.step p s) := step_cases p s r
  rw [h] at hcase
  cases hcase with
  | searched goesOn factored large => exact descend_direct_iterations p s r _

end Run

end ProjectedNewton
