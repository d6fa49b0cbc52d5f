import ProjectedNewton.Proofs.Problem.Partition
import ProjectedNewton.Proofs.Scalar.Lawful

/-!
# Points of the box

A point is feasible when it lies between the bounds wherever they are in order. Where they are
crossed, projection moves everything to the upper bound, and there a feasible point sits.

Nothing is said here about the objective, which may be infinite or NaN anywhere. That a line search
still finds feasible points only has one reason: it accepts a candidate only if a comparison with
the objective there holds, and then neither the objective nor the candidate is NaN.

* `Problem.feasible_project`: projection makes a vector of numbers feasible.
* `LineSearch.feasible_landing`: a line search that starts in the box ends there.
* `Problem.onBound_candidate`: no step takes a clamped coordinate off its bound.
-/

namespace ProjectedNewton

open Scalar

variable {α : Type} [Scalar α] {n : Nat}

namespace Problem

/-- The bounds of the box are numbers, which may be infinite. -/
def HasBounds (p : Problem α n) : Prop :=
  ∀ i, isNaN (p.lower i) = false ∧ isNaN (p.upper i) = false

instance (p : Problem α n) : Decidable p.HasBounds := inferInstanceAs (Decidable (∀ _, _))

/-- A point of the box. -/
structure Feasible (p : Problem α n) (x : Vec α n) : Prop where
  number (i : Fin n) : isNaN (x i) = false
  lower_le (i : Fin n) : le (p.lower i) (p.upper i) → le (p.lower i) (x i)
  le_upper (i : Fin n) : le (p.lower i) (p.upper i) → le (x i) (p.upper i)
  crossed (i : Fin n) : lt (p.upper i) (p.lower i) → x i = p.upper i

/-- Coordinate `i` of `x` equals one of its bounds. -/
def OnBound (p : Problem α n) (x : Vec α n) (i : Fin n) : Prop :=
  eq (x i) (p.lower i) ∨ eq (x i) (p.upper i)

variable {p : Problem α n} {x v : Vec α n} {i : Fin n}

@[simp] theorem entry_project (p : Problem α n) (x : Vec α n) (i : Fin n) :
    p.project x i = clamp (x i) (p.lower i) (p.upper i) :=
  Vec.entry_ofFn _ i

/-- A clamped coordinate sits on a bound. -/
theorem onBound_of_clamped (h : i ∈ (p.split x).clamped) : p.OnBound x i :=
  onBound_of_isClamped (mem_clamped_iff.mp h)

variable [LawfulScalar α]

/-! ## Projection -/

/-- A projected point is not moved again. -/
theorem project_project (p : Problem α n) (x : Vec α n) :
    p.project (p.project x) = p.project x := by
  refine Vec.ext_entry ?_
  intro i
  rw [entry_project, entry_project, clamp_clamp]

/-- **Projection makes a vector of numbers feasible.** -/
theorem feasible_project (hp : p.HasBounds) (hx : ∀ i, isNaN (x i) = false) :
    p.Feasible (p.project x) where
  number := by
    intro i
    rw [entry_project]
    exact isNaN_clamp (hx i) (hp i).1 (hp i).2
  lower_le := by
    intro i h
    rw [entry_project]
    exact le_clamp (hx i) (hp i).1 h
  le_upper := by
    intro i _
    rw [entry_project]
    exact clamp_le (hx i) (hp i).1 (hp i).2
  crossed := by
    intro i h
    rw [entry_project]
    exact clamp_of_crossed (hx i) (hp i).1 h

/-- A coordinate that is on a bound is still there after a number equal to it is projected. -/
theorem onBound_project (hp : p.HasBounds) (hx : p.Feasible x) (hb : p.OnBound x i)
    (hv : eq (v i) (x i)) : p.OnBound (p.project v) i := by
  have hnum : isNaN (v i) = false := (LawfulScalar.isNaN_of_eq hv).1
  unfold OnBound
  rw [entry_project]
  -- Bounds in order leave the number alone, crossed ones send it to the upper bound.
  rcases le_or_lt (hp i).1 (hp i).2 with h | h
  · have hlow : le (p.lower i) (v i) :=
      LawfulScalar.le_trans (hx.lower_le i h) (le_of_eq (LawfulScalar.eq_symm hv))
    have hup : le (v i) (p.upper i) := LawfulScalar.le_trans (le_of_eq hv) (hx.le_upper i h)
    have hclamp : eq (clamp (v i) (p.lower i) (p.upper i)) (x i) :=
      eq_trans (clamp_of_mem hnum (hp i).1 (hp i).2 hlow hup) hv
    exact hb.imp (eq_trans hclamp) (eq_trans hclamp)
  · rw [clamp_of_crossed hnum (hp i).1 h]
    exact Or.inr (eq_self (hp i).2)

/-! ## The objective shows NaN -/

/-- Where the objective is a number, so is every coordinate. -/
theorem number_of_value (h : isNaN (p.value x) = false) (i : Fin n) : isNaN (x i) = false := by
  cases hx : isNaN (x i) with
  | false => rfl
  | true =>
    have hdot : isNaN (Vec.dot p.linear x) :=
      isNaN_sum i (LawfulScalar.isNaN_mul (Or.inr hx))
    have hvalue : isNaN (p.value x) := LawfulScalar.isNaN_add (Or.inr hdot)
    rw [h] at hvalue
    exact absurd hvalue Bool.false_ne_true

end Problem

/-! ## Steps -/

namespace LineSearch

variable {l : LineSearch α n} {a : α}

theorem accepts_of_acceptedLength (h : l.acceptedLength = some a) : l.accepts a :=
  List.find?_some h

variable [LawfulScalar α]

/-- An accepted candidate is made of numbers, whatever the objective is. -/
theorem number_of_accepts (h : l.accepts a) (i : Fin n) : isNaN (l.candidate a i) = false := by
  have hreduction : isNaN (l.reduction a) = false := (LawfulScalar.isNaN_of_lt h).2
  refine Problem.number_of_value (p := l.problem) ?_ i
  cases hvalue : isNaN (l.problem.value (l.candidate a)) with
  | false => rfl
  | true =>
    have hnan : isNaN (l.reduction a) := LawfulScalar.isNaN_sub (Or.inr hvalue)
    rw [hreduction] at hnan
    exact absurd hnan Bool.false_ne_true

/-- An accepted candidate is a point of the box. -/
theorem feasible_of_accepts (hp : l.problem.HasBounds) (h : l.accepts a) :
    l.problem.Feasible (l.candidate a) := by
  refine Problem.feasible_project hp ?_
  intro i
  have hnum : isNaN (l.candidate a i) = false := number_of_accepts h i
  unfold candidate at hnum
  rw [Problem.entry_project] at hnum
  cases hv : isNaN (((l.direction.scale a).add l.start) i) with
  | false => rfl
  | true =>
    rw [clamp_of_isNaN hv, hv] at hnum
    exact hnum

theorem isFinite_of_acceptedLength (h : l.acceptedLength = some a) : isFinite a :=
  LawfulScalar.isFinite_of_mem_stepLengths (List.mem_of_find?_eq_some h)

/-- **A line search that starts in the box ends there.** -/
theorem feasible_landing (hp : l.problem.HasBounds) (hstart : l.problem.Feasible l.start) :
    l.problem.Feasible l.landing := by
  unfold landing
  cases h : l.acceptedLength with
  | none => exact hstart
  | some a => exact feasible_of_accepts hp (accepts_of_acceptedLength h)

end LineSearch

namespace Problem

variable [LawfulScalar α] {p : Problem α n} {s : Settings α} {x : Vec α n} {i : Fin n}
  {F : Factorization α (p.split x).free.length}

/-- **No step takes a clamped coordinate off its bound.** -/
theorem onBound_candidate (hp : p.HasBounds) (hx : p.Feasible x) (hi : i ∈ (p.split x).clamped)
    {a : α} (ha : isFinite a) : p.OnBound ((p.search s x F).candidate a) i := by
  refine onBound_project hp hx (onBound_of_clamped hi) ?_
  show eq ((((p.directionAt x F).scale a).add x) i) (x i)
  rw [Vec.entry_add, Vec.entry_scale, directionAt_of_clamped hi]
  exact LawfulScalar.zero_mul_add ha (hx.number i)

/-- A clamped coordinate is on a bound at the end of the search, too. -/
theorem onBound_landing (hp : p.HasBounds) (hx : p.Feasible x) (hi : i ∈ (p.split x).clamped) :
    p.OnBound (p.search s x F).landing i := by
  unfold LineSearch.landing
  cases h : (p.search s x F).acceptedLength with
  | none => exact onBound_of_clamped hi
  | some a => exact onBound_candidate hp hx hi (LineSearch.isFinite_of_acceptedLength h)

end Problem

end ProjectedNewton
