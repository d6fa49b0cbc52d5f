import ProjectedNewton.Proofs.Decimal.Overflow
import ProjectedNewton.Proofs.Solver.Assignment

/-!
# Assignments are atomic

An assignment either changes its own setting, or fails and changes nothing. Which of the two it
does depends on the value alone: on its kind, on whether it is in the range of the setting, compared
exactly, and for the three real settings on whether there is a double near it. A solver that is made
checks its arguments in their order, and fails as the assignment of the first bad one does.

That there is working memory for a new dimension is asked for throughout (`Setting.Allocatable`).

* `Setting.Admits` and `Setting.Refuses` say which values are admitted, and why the others are not.
* `Solver.Changed` is what an assignment changes, and `Solver.assign_cases` says that it does this
  or nothing.
* `Solver.Checked` is what comes out of checking some arguments in order and assigning them, and
  `Solver.checked_ofOptions` says so of a new solver.
-/

namespace ProjectedNewton

open Scalar

/-! ## Ranges

Integers are compared as integers and doubles as doubles, so that nothing is rounded.
-/

namespace Number

/-- The number is an integer from `least` on. -/
def IsCountFrom (least : ℕ) : Number → Prop
  | int k => least ≤ k
  | real _ => False

/-- The number lies strictly between zero and one. -/
def IsBelowOne : Number → Prop
  | int k => 0 < k ∧ k < 1
  | real x => lt 0 x ∧ lt x 1

/-- The number is at least zero. -/
def IsTolerance : Number → Prop
  | int k => 0 ≤ k
  | real x => le 0 x

/-- The number is beyond all doubles. -/
def Overflows : Number → Prop
  | int k => 2 ^ 1024 - 2 ^ 970 ≤ k.natAbs
  | real _ => False

variable {x : Number}

theorem isProperFraction_iff : x.isProperFraction ↔ x.IsBelowOne := by
  cases x with
  | int k =>
    refine iff_of_false Bool.false_ne_true ?_
    rintro ⟨hpos, hlt⟩
    omega
  | real y => exact Bool.and_eq_true_iff

theorem isNonneg_iff : x.isNonneg ↔ x.IsTolerance := by
  cases x with
  | int k => exact decide_eq_true_iff
  | real y => exact decide_eq_true_iff.trans Double.float_le_iff

/-- Only what is beyond all doubles is not rounded to one. -/
theorem toFloat_eq_error_iff {e : ReadError} :
    x.toFloat = .error e ↔ x.Overflows ∧ e = .tooLarge := by
  cases x with
  | real y => exact iff_of_false nofun And.left
  | int k =>
    unfold toFloat Overflows
    dsimp only
    rw [← not_lt, ← Decimal.nearestInt?_isSome_iff]
    cases Decimal.nearestInt? k with
    | none => simp [eq_comm]
    | some y => simp

end Number

/-! ## Admitted values -/

namespace Setting

/-- The setting counts something: coordinates or iterations. -/
def isCount : Setting → Bool
  | dimension => true
  | maxIterations => true
  | acceptStepThreshold => false
  | gradThreshold => false
  | regularization => false

/-- A value as a number for the setting. To count, only integers will do; the real settings take
every number, and truth values as one and zero. -/
def reads? : Setting → Datum → Option Number
  | dimension, d => d.int?.map .int
  | maxIterations, d => d.int?.map .int
  | acceptStepThreshold, d => d.number?
  | gradThreshold, d => d.number?
  | regularization, d => d.number?

/-- The range of the setting. -/
def InRange : Setting → Number → Prop
  | dimension => Number.IsCountFrom 1
  | maxIterations => Number.IsCountFrom 0
  | acceptStepThreshold => Number.IsBelowOne
  | gradThreshold => Number.IsTolerance
  | regularization => Number.IsTolerance

/-- The value is of the right kind, in the range and, where it has to be, near a double. -/
def Admits (s : Setting) (d : Datum) : Prop :=
  ∃ x, s.reads? d = some x ∧ s.InRange x ∧ (s.isCount = false → ¬x.Overflows)

/-- Why a value is not admitted. -/
inductive Refuses (s : Setting) (d : Datum) : Failure Float → Prop
  /-- What is no integer is out of the range of a count. -/
  | notCounted (count : s.isCount) (unread : s.reads? d = none) :
    Refuses s d (.rejected (.outOfRange s))
  | wrongKind (real : s.isCount = false) (unread : s.reads? d = none) :
    Refuses s d (.unreadable .wrongKind)
  | outOfRange {x : Number} (read : s.reads? d = some x) (outside : ¬s.InRange x) :
    Refuses s d (.rejected (.outOfRange s))
  | tooLarge {x : Number} (real : s.isCount = false) (read : s.reads? d = some x)
      (inside : s.InRange x) (large : x.Overflows) : Refuses s d (.unreadable .tooLarge)

variable {s : Setting} {d : Datum}

/-- A value is not admitted and refused at once. -/
theorem Refuses.not_admits {e : Failure Float} (h : s.Refuses d e) : ¬s.Admits d := by
  rintro ⟨x, hx, hrange, hfits⟩
  cases h with
  | notCounted count unread => rw [hx] at unread; cases unread
  | wrongKind real unread => rw [hx] at unread; cases unread
  | outOfRange read outside =>
    rw [hx] at read
    cases read
    exact outside hrange
  | tooLarge real read inside large =>
    rw [hx] at read
    cases read
    exact hfits real large

/-- There is working memory for the value, if it is a dimension. -/
def Allocatable (s : Setting) (d : Datum) : Prop :=
  s = dimension → ∀ k : ℤ, d = .int k → k < Solver.dimensionLimit

end Setting

/-! ## One assignment -/

namespace Solver

variable {solver : Solver Float} {s : Setting} {d : Datum}

/-- What becomes of a solver if a setting is assigned an admitted value. -/
inductive Changed (solver : Solver Float) : Setting → Datum → Solver Float → Prop
  /-- With the dimension, the working memory is renewed. The last solution stays. -/
  | dimension (k : ℕ) :
    Changed solver .dimension (.int k) ⟨k, solver.settings, Memory.fresh k solver.solution⟩
  | maxIterations (k : ℕ) : Changed solver .maxIterations (.int k)
      { solver with settings := { solver.settings with maxIterations := k } }
  | acceptStepThreshold {d : Datum} {x : Number} {a : Float} (read : d.number? = some x)
      (rounded : x.toFloat = .ok a) : Changed solver .acceptStepThreshold d
        { solver with settings := { solver.settings with acceptStepThreshold := a } }
  | gradThreshold {d : Datum} {x : Number} {a : Float} (read : d.number? = some x)
      (rounded : x.toFloat = .ok a) : Changed solver .gradThreshold d
        { solver with settings := { solver.settings with gradThreshold := a } }
  | regularization {d : Datum} {x : Number} {a : Float} (read : d.number? = some x)
      (rounded : x.toFloat = .ok a) : Changed solver .regularization d
        { solver with settings := { solver.settings with regularization := a } }

/-- The ways an assignment can go. -/
inductive AssignCase (solver : Solver Float) (s : Setting) (d : Datum) : Assigned → Prop
  | changed {solver' : Solver Float} (admitted : s.Admits d) (change : solver.Changed s d solver') :
    AssignCase solver s d ⟨solver', none⟩
  | refused {e : Failure Float} (refusal : s.Refuses d e) : AssignCase solver s d ⟨solver, some e⟩

/-- A count that is not read is refused. -/
theorem refuses_of_readCount {least : ℕ} (hcount : s.isCount)
    (hreads : s.reads? d = d.int?.map .int) (hrange : s.InRange = Number.IsCountFrom least)
    (hd : ∀ k : ℤ, d.int? = some k → k < least) : s.Refuses d (.rejected (.outOfRange s)) := by
  cases hint : d.int? with
  | none =>
    rw [hint] at hreads
    exact .notCounted hcount hreads
  | some k =>
    rw [hint] at hreads
    refine .outOfRange hreads ?_
    rw [hrange]
    exact not_le.mpr (hd k hint)

theorem assignDimension_cases (hsize : Setting.dimension.Allocatable d) :
    AssignCase solver .dimension d (solver.assignDimension d) := by
  unfold assignDimension readDimension
  rcases readCount_cases .dimension 1 d with ⟨k, rfl, hk, hread⟩ | ⟨hd, hread⟩
  · rw [hread]
    have hlimit : k < dimensionLimit := Int.ofNat_lt.mp (hsize rfl k rfl)
    dsimp only
    rw [if_pos hlimit]
    exact .changed ⟨.int k, rfl, Int.ofNat_le.mpr hk, nofun⟩ (.dimension k)
  · rw [hread]
    exact .refused (refuses_of_readCount rfl rfl rfl hd)

theorem assignMaxIterations_cases :
    AssignCase solver .maxIterations d (solver.assign d .maxIterations) := by
  unfold assign Settings.setMaxIterations
  rcases readCount_cases .maxIterations 0 d with ⟨k, rfl, hk, hread⟩ | ⟨hd, hread⟩
  · rw [hread]
    exact .changed ⟨.int k, rfl, Int.ofNat_le.mpr hk, nofun⟩ (.maxIterations k)
  · rw [hread]
    exact .refused (refuses_of_readCount rfl rfl rfl hd)

/-- The assignment of a real setting, which is `update` after the value is read. -/
theorem assignReal_cases {admits : Number → Bool} {update : Float → Settings Float}
    (hreal : s.isCount = false) (hreads : s.reads? d = d.number?)
    (hadmits : ∀ {x}, admits x ↔ s.InRange x)
    (hchanged : ∀ {x a}, d.number? = some x → x.toFloat = .ok a →
      solver.Changed s d { solver with settings := update a }) :
    AssignCase solver s d
      (solver.assignSettings (readReal s admits d >>= fun a => .ok (update a))) := by
  unfold readReal
  cases hd : d.number? with
  | none => exact .refused (.wrongKind hreal (hreads.trans hd))
  | some x =>
    dsimp only
    split
    · next hx =>
      cases ha : x.toFloat with
      | error e =>
        obtain ⟨hlarge, rfl⟩ := Number.toFloat_eq_error_iff.mp ha
        exact .refused (.tooLarge hreal (hreads.trans hd) (hadmits.mp hx) hlarge)
      | ok a =>
        have hfits : ¬x.Overflows := by
          intro hlarge
          have herror := Number.toFloat_eq_error_iff.mpr ⟨hlarge, rfl⟩
          rw [ha] at herror
          cases herror
        exact .changed ⟨x, hreads.trans hd, hadmits.mp hx, fun _ => hfits⟩ (hchanged hd ha)
    · next hx => exact .refused (.outOfRange (hreads.trans hd) (mt hadmits.mpr hx))

/-- **An assignment changes its setting if the value is admitted, and nothing otherwise.** -/
theorem assign_cases (hsize : s.Allocatable d) : AssignCase solver s d (solver.assign d s) := by
  cases s with
  | dimension => exact assignDimension_cases hsize
  | maxIterations => exact assignMaxIterations_cases
  | acceptStepThreshold =>
    exact assignReal_cases rfl rfl Number.isProperFraction_iff .acceptStepThreshold
  | gradThreshold => exact assignReal_cases rfl rfl Number.isNonneg_iff .gradThreshold
  | regularization => exact assignReal_cases rfl rfl Number.isNonneg_iff .regularization

/-- The working memory that the next run borrows. -/
def workspace (solver : Solver Float) : Workspace Float solver.dimension :=
  solver.memory.workspace.getD (Workspace.fresh solver.dimension)

/-- What the outcome `a` of an assignment says about the value, and what it does to the solver. -/
structure Atomic (solver : Solver Float) (s : Setting) (d : Datum) (a : Assigned) : Prop where
  succeeds_iff : a.failure? = none ↔ s.Admits d
  refuses {e : Failure Float} : a.failure? = some e → s.Refuses d e
  changed : a.failure? = none → solver.Changed s d a.solver
  unchanged : a.failure? ≠ none → a.solver = solver
  /-- With a new dimension, the working vectors are zero and there is no inverse any more. -/
  renewed : s = .dimension → a.failure? = none →
    a.solver.workspace = Workspace.fresh a.solver.dimension ∧
      a.solver.workspace.inverse = Square.empty
  /-- The last solution is never touched. -/
  solution : a.solver.solution = solver.solution

theorem AssignCase.atomic {a : Assigned} (h : AssignCase solver s d a) : solver.Atomic s d a := by
  cases h with
  | changed admitted change =>
    refine ⟨iff_of_true rfl admitted, nofun, fun _ => change, absurd rfl, ?_, ?_⟩
    · rintro rfl -
      cases change
      exact ⟨rfl, rfl⟩
    · cases change <;> rfl
  | refused refusal =>
    refine ⟨iff_of_false nofun refusal.not_admits, ?_, nofun, fun _ => rfl, fun _ => nofun, rfl⟩
    intro e he
    cases he
    exact refusal

/-- **Assignments are atomic.** -/
theorem atomic_set (hsize : s.Allocatable d) :
    solver.Atomic s d (solver.set d (.ofName s.name)) := by
  have hname : Property.ofName s.name = .setting s := by
    cases s <;> rfl
  rw [hname]
  exact (assign_cases hsize).atomic

/-! ## Construction -/

/-- The values that are given when a solver is made. -/
def arguments (dimension : Datum) (given : Setting → Option Datum) : Setting → Option Datum
  | .dimension => some dimension
  | s => given s

/-- Assigns a setting if a value for it is given. -/
def assignGiven (values : Setting → Option Datum) (solver : Solver Float) (s : Setting) :
    Except (Failure Float) (Solver Float) :=
  match values s with
  | some d => (solver.assign d s).outcome
  | none => .ok solver

/-- A solver is made by assigning what is given, in the order of the settings. -/
theorem make_eq (dimension : Datum) (given : Setting → Option Datum) : make dimension given
    = Setting.all.foldlM (assignGiven (arguments dimension given)) (fresh 1 Settings.standard) :=
  rfl

variable {values : Setting → Option Datum}

/-- What becomes of a solver if a setting is assigned the value that is given for it. -/
inductive TakesGiven (values : Setting → Option Datum) (solver : Solver Float) (s : Setting) :
    Solver Float → Prop
  | absent (absent : values s = none) : TakesGiven values solver s solver
  | present {d : Datum} {solver' : Solver Float} (given : values s = some d) (admitted : s.Admits d)
      (change : solver.Changed s d solver') : TakesGiven values solver s solver'

/-- What becomes of a solver if some settings take the values that are given for them, in order. -/
inductive TakesAll (values : Setting → Option Datum) :
    Solver Float → List Setting → Solver Float → Prop
  | nil (solver : Solver Float) : TakesAll values solver [] solver
  | cons {solver middle solver' : Solver Float} {s : Setting} {settings : List Setting}
      (first : TakesGiven values solver s middle) (rest : TakesAll values middle settings solver') :
    TakesAll values solver (s :: settings) solver'

theorem TakesGiven.admits {solver' : Solver Float} (h : TakesGiven values solver s solver')
    (hd : values s = some d) : s.Admits d := by
  cases h with
  | absent absent => cases absent.symm.trans hd
  | present given admitted change =>
    cases given.symm.trans hd
    exact admitted

/-- What comes of checking the given values of some settings in order, for a solver. -/
inductive Checked (values : Setting → Option Datum) (solver : Solver Float)
    (settings : List Setting) : Except (Failure Float) (Solver Float) → Prop
  /-- All of them are admitted, and assigned. -/
  | passed {solver' : Solver Float}
      (admitted : ∀ s ∈ settings, ∀ d, values s = some d → s.Admits d)
      (change : TakesAll values solver settings solver') :
    Checked values solver settings (.ok solver')
  /-- The first one that is not admitted decides the failure. -/
  | failed {before after : List Setting} {s : Setting} {d : Datum} {e : Failure Float}
      (order : settings = before ++ s :: after)
      (admitted : ∀ s' ∈ before, ∀ d', values s' = some d' → s'.Admits d')
      (given : values s = some d) (refusal : s.Refuses d e) :
    Checked values solver settings (.error e)

/-- One more value that is admitted, or not given, is assigned before the others are checked. -/
theorem Checked.cons {middle : Solver Float} {settings : List Setting}
    {outcome : Except (Failure Float) (Solver Float)} (first : TakesGiven values solver s middle)
    (rest : Checked values middle settings outcome) :
    Checked values solver (s :: settings) outcome := by
  have hs : ∀ d, values s = some d → s.Admits d := fun _ => first.admits
  cases rest with
  | passed admitted change =>
    exact .passed (List.forall_mem_cons.mpr ⟨hs, admitted⟩) (.cons first change)
  | failed order admitted given refusal =>
    exact .failed (congrArg (s :: ·) order) (List.forall_mem_cons.mpr ⟨hs, admitted⟩) given refusal

theorem checked_foldlM (hsize : ∀ s d, values s = some d → s.Allocatable d)
    (settings : List Setting) (solver : Solver Float) :
    Checked values solver settings (settings.foldlM (assignGiven values) solver) := by
  induction settings generalizing solver with
  | nil => exact .passed nofun (.nil solver)
  | cons s settings ih =>
    rw [List.foldlM_cons]
    unfold assignGiven
    cases hd : values s with
    | none => exact .cons (.absent hd) (ih solver)
    | some d =>
      have hcase : AssignCase solver s d (solver.assign d s) := assign_cases (hsize s d hd)
      dsimp only
      generalize solver.assign d s = a at hcase
      cases hcase with
      | @changed solver' admitted change => exact .cons (.present hd admitted change) (ih solver')
      | refused refusal =>
        exact .failed (List.nil_append _).symm (List.forall_mem_nil _) hd refusal

/-- **A new solver checks its arguments in order.** -/
theorem checked_ofOptions {dimension : Datum} {options : List (String × Datum)}
    (hsize : Setting.dimension.Allocatable dimension)
    (hnames : ∀ name ∈ options.map Prod.fst, name ∈ optional.map Setting.name) :
    Checked (arguments dimension fun s => options.lookup s.name) (fresh 1 Settings.standard)
      Setting.all (ofOptions dimension options) := by
  unfold ofOptions
  split
  · rw [make_eq]
    refine checked_foldlM ?_ _ _
    intro s d hd hs
    subst hs
    cases hd
    exact hsize rfl
  · next hunknown =>
    refine absurd (List.all_eq_true.mpr ?_) hunknown
    intro o ho
    obtain ⟨s, hs, hname⟩ := List.mem_map.mp (hnames o.1 (List.mem_map_of_mem ho))
    exact List.any_eq_true.mpr ⟨s, hs, beq_iff_eq.mpr hname⟩

end Solver

end ProjectedNewton
