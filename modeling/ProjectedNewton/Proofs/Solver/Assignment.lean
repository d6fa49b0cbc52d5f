import ProjectedNewton.Proofs.Scalar.Double
import ProjectedNewton.Proofs.Solver.Outcome
import ProjectedNewton.Solver.Assignment

/-!
# What can be assigned

A solver that has been made, and changed by any assignments, has a positive dimension and admissible
settings. So its configuration passes the checks again: a new solver can be made from it, unless its
dimension is too large.

* `Solver.Configured` is the invariant, `Solver.configured_of_ofOptions` and `Solver.configured_set`
  say that it is established and preserved.
* `Solver.set_solution`: no assignment touches the last solution.
* `Solver.make_configuration` makes the new solver.
-/

namespace ProjectedNewton

open Scalar

/-! ## Admitted numbers -/

/-- The double nearest to a fraction is at least zero. -/
theorem Decimal.zero_le_of_nearest? {r : Decimal.Ratio} {x : Float}
    (h : Decimal.nearest? r = some x) : le 0 x := by
  unfold Decimal.nearest? at h
  split at h
  · cases h
    decide +kernel
  · dsimp only at h
    split at h
    · next hbits =>
      have hunit : Binary.topField * Binary.fieldUnit = 2047 * 2 ^ 52 := rfl
      rw [hunit] at hbits
      cases h
      exact Double.zero_le_ofBits_toUInt64 hbits
    · cases h

namespace Number

/-- An admitted number is still admitted after it is rounded. -/
theorem toFloat_of_isNonneg {x : Number} {a : Float} (hx : x.isNonneg) (ha : x.toFloat = .ok a) :
    le 0 a := by
  cases x with
  | int k =>
    have hk : ¬k < 0 := not_lt.mpr (of_decide_eq_true hx)
    unfold toFloat Decimal.nearestInt? at ha
    dsimp only at ha
    split at ha
    · next y hy =>
      cases ha
      obtain ⟨z, hz, hneg⟩ := Option.bind_eq_some_iff.mp hy
      rw [if_neg hk] at hneg
      cases hneg
      exact Decimal.zero_le_of_nearest? hz
    · cases ha
  | real y =>
    cases ha
    exact Double.float_le_iff.mp (of_decide_eq_true hx)

theorem toFloat_of_isProperFraction {x : Number} {a : Float} (hx : x.isProperFraction)
    (ha : x.toFloat = .ok a) : lt 0 a ∧ lt a 1 := by
  cases x with
  | int k => cases hx
  | real y =>
    cases ha
    exact Bool.and_eq_true_iff.mp hx

end Number

/-- A count is read from an integer that is not below the least one. -/
theorem readCount_cases (setting : Setting) (least : Nat) (d : Datum) :
    (∃ k : Nat, d = .int k ∧ least ≤ k ∧ readCount setting least d = .ok k) ∨
    (∀ k : Int, d.int? = some k → k < least) ∧
      readCount setting least d = .error (.rejected (.outOfRange setting)) := by
  unfold readCount
  cases hd : d.int? with
  | none => exact Or.inr ⟨nofun, rfl⟩
  | some k =>
    by_cases hk : (least : Int) ≤ k
    · obtain ⟨j, rfl⟩ : ∃ j : Nat, k = j := Int.eq_ofNat_of_zero_le (by omega)
      refine Or.inl ⟨j, ?_, Int.ofNat_le.mp hk, if_pos hk⟩
      cases d with
      | int k => exact congrArg Datum.int (Option.some.inj hd)
      | _ => cases hd
    · refine Or.inr ⟨?_, if_neg hk⟩
      intro k' hk'
      cases hk'
      exact not_le.mp hk

theorem readCount_spec {setting : Setting} {least k : Nat} {d : Datum}
    (h : readCount setting least d = .ok k) : least ≤ k := by
  rcases readCount_cases setting least d with ⟨j, -, hj, hread⟩ | ⟨-, hread⟩
  · cases hread.symm.trans h
    exact hj
  · cases hread.symm.trans h

theorem readReal_spec {setting : Setting} {admits : Number → Bool} {d : Datum} {a : Float}
    (h : readReal setting admits d = .ok a) : ∃ x, admits x ∧ x.toFloat = .ok a := by
  unfold readReal at h
  split at h
  · cases h
  · next x hx =>
    split at h
    · next hadmits =>
      refine ⟨x, hadmits, ?_⟩
      cases ha : x.toFloat with
      | error e => rw [ha] at h; cases h
      | ok b =>
        rw [ha] at h
        cases h
        rfl
    · cases h

/-! ## Admissible settings -/

namespace Settings

variable {s s' : Settings Float} {d : Datum}

theorem admissible_standard : Settings.standard.Admissible where
  acceptStepThreshold_pos := by decide +kernel
  acceptStepThreshold_lt_one := by decide +kernel
  gradThreshold_nonneg := by decide +kernel
  regularization_nonneg := by decide +kernel

theorem Admissible.setMaxIterations (hs : s.Admissible) (h : s.setMaxIterations d = .ok s') :
    s'.Admissible := by
  obtain ⟨k, -, h⟩ := bind_eq_ok_iff.mp h
  cases h
  exact ⟨hs.1, hs.2, hs.3, hs.4⟩

theorem Admissible.setAcceptStepThreshold (hs : s.Admissible)
    (h : s.setAcceptStepThreshold d = .ok s') : s'.Admissible := by
  obtain ⟨a, ha, h⟩ := bind_eq_ok_iff.mp h
  obtain ⟨x, hx, hxa⟩ := readReal_spec ha
  obtain ⟨hpos, hlt⟩ := Number.toFloat_of_isProperFraction hx hxa
  cases h
  exact ⟨hpos, hlt, hs.3, hs.4⟩

theorem Admissible.setGradThreshold (hs : s.Admissible) (h : s.setGradThreshold d = .ok s') :
    s'.Admissible := by
  obtain ⟨a, ha, h⟩ := bind_eq_ok_iff.mp h
  obtain ⟨x, hx, hxa⟩ := readReal_spec ha
  cases h
  exact ⟨hs.1, hs.2, Number.toFloat_of_isNonneg hx hxa, hs.4⟩

theorem Admissible.setRegularization (hs : s.Admissible) (h : s.setRegularization d = .ok s') :
    s'.Admissible := by
  obtain ⟨a, ha, h⟩ := bind_eq_ok_iff.mp h
  obtain ⟨x, hx, hxa⟩ := readReal_spec ha
  cases h
  exact ⟨hs.1, hs.2, hs.3, Number.toFloat_of_isNonneg hx hxa⟩

end Settings

/-! ## Assignments -/

theorem Assigned.outcome_eq_ok_iff {a : Assigned} {solver : Solver Float} :
    a.outcome = .ok solver ↔ a.failure? = none ∧ a.solver = solver := by
  obtain ⟨solver', failure?⟩ := a
  cases failure? with
  | none => simp [Assigned.outcome]
  | some e => simp [Assigned.outcome]

namespace Solver

/-- The configuration of a solver is one that passes the checks. -/
structure Configured (solver : Solver Float) : Prop where
  dimension_pos : 1 ≤ solver.dimension
  admissible : solver.settings.Admissible

variable {solver : Solver Float}

theorem configured_assignSettings (h : solver.Configured)
    {result : Except (Failure Float) (Settings Float)}
    (hresult : ∀ s, result = .ok s → s.Admissible) :
    (solver.assignSettings result).solver.Configured := by
  cases result with
  | error e => exact h
  | ok s => exact ⟨h.dimension_pos, hresult s rfl⟩

theorem configured_assignDimension (h : solver.Configured) (d : Datum) :
    (solver.assignDimension d).solver.Configured := by
  unfold assignDimension
  cases hd : readDimension d with
  | error e => exact h
  | ok k => exact ⟨readCount_spec hd, h.admissible⟩

theorem configured_assign (h : solver.Configured) (d : Datum) (s : Setting) :
    (solver.assign d s).solver.Configured := by
  cases s with
  | dimension => exact configured_assignDimension h d
  | maxIterations =>
    exact configured_assignSettings h fun _ => h.admissible.setMaxIterations
  | acceptStepThreshold =>
    exact configured_assignSettings h fun _ => h.admissible.setAcceptStepThreshold
  | gradThreshold =>
    exact configured_assignSettings h fun _ => h.admissible.setGradThreshold
  | regularization =>
    exact configured_assignSettings h fun _ => h.admissible.setRegularization

/-- **Setting a property keeps a solver configured**, whether it succeeds or fails. -/
theorem configured_set (h : solver.Configured) (d : Datum) (property : Property) :
    (solver.set d property).solver.Configured := by
  cases property with
  | setting s => exact configured_assign h d s
  | readOnly => exact h
  | unrelated => exact h

theorem assignSettings_solution (solver : Solver Float)
    (result : Except (Failure Float) (Settings Float)) :
    (solver.assignSettings result).solver.solution = solver.solution := by
  cases result with
  | error e => rfl
  | ok s => rfl

theorem assign_solution (solver : Solver Float) (d : Datum) (s : Setting) :
    (solver.assign d s).solver.solution = solver.solution := by
  cases s with
  | dimension =>
    show (solver.assignDimension d).solver.solution = solver.solution
    unfold assignDimension
    cases readDimension d with
    | error e => rfl
    | ok k => rfl
  | maxIterations => exact assignSettings_solution solver _
  | acceptStepThreshold => exact assignSettings_solution solver _
  | gradThreshold => exact assignSettings_solution solver _
  | regularization => exact assignSettings_solution solver _

/-- **Setting a property does not touch the last solution.** -/
theorem set_solution (solver : Solver Float) (d : Datum) (property : Property) :
    (solver.set d property).solver.solution = solver.solution := by
  cases property with
  | setting s => exact assign_solution solver d s
  | readOnly => rfl
  | unrelated => rfl

/-! ## Construction -/

/-- What each step of a computation preserves holds of its result. -/
theorem foldlM_invariant {ε β γ : Type} {f : β → γ → Except ε β} (Inv : β → Prop)
    (hstep : ∀ b c b', Inv b → f b c = .ok b' → Inv b') {l : List γ} {b b' : β} (hb : Inv b)
    (h : l.foldlM f b = .ok b') : Inv b' := by
  induction l generalizing b with
  | nil =>
    cases h
    exact hb
  | cons c l ih =>
    rw [List.foldlM_cons] at h
    obtain ⟨b₁, hb₁, h⟩ := bind_eq_ok_iff.mp h
    exact ih (hstep b c b₁ hb hb₁) h

/-- **A new solver is configured and has no solution.** -/
theorem configured_of_make {dimension : Datum} {given : Setting → Option Datum}
    (h : make dimension given = .ok solver) : solver.Configured ∧ solver.solution = none := by
  obtain ⟨first, hfirst, h⟩ := bind_eq_ok_iff.mp h
  have hnew : (fresh 1 Settings.standard).Configured := ⟨le_rfl, Settings.admissible_standard⟩
  -- An option that is not given leaves the default, which the solver has been started with.
  refine foldlM_invariant (fun solver => solver.Configured ∧ solver.solution = none) ?_ ?_ h
  · rintro q s q' ⟨hq, hnone⟩ hassign
    split at hassign
    · next d hd =>
      obtain ⟨-, rfl⟩ := Assigned.outcome_eq_ok_iff.mp hassign
      exact ⟨configured_assign hq d s, (assign_solution q d s).trans hnone⟩
    · cases hassign
      exact ⟨hq, hnone⟩
  · obtain ⟨-, rfl⟩ := Assigned.outcome_eq_ok_iff.mp hfirst
    exact ⟨configured_assign hnew dimension .dimension, assign_solution _ dimension .dimension⟩

theorem configured_of_ofOptions {dimension : Datum} {options : List (String × Datum)}
    (h : ofOptions dimension options = .ok solver) :
    solver.Configured ∧ solver.solution = none := by
  unfold ofOptions at h
  split at h
  · exact configured_of_make h
  · cases h

/-- The settings as the values from which they can be set. -/
def assignments (s : Settings Float) : Setting → Option Datum
  | .dimension => none
  | .maxIterations => some (.int s.maxIterations)
  | .acceptStepThreshold => some (.real s.acceptStepThreshold)
  | .gradThreshold => some (.real s.gradThreshold)
  | .regularization => some (.real s.regularization)

theorem readCount_natCast (setting : Setting) {least k : Nat} (h : least ≤ k) :
    readCount setting least (.int k) = .ok k := by
  unfold readCount
  exact if_pos (Int.ofNat_le.mpr h)

theorem readReal_real (setting : Setting) {admits : Number → Bool} {a : Float}
    (h : admits (.real a)) : readReal setting admits (.real a) = .ok a := by
  unfold readReal
  exact if_pos h

section Outcomes

variable (solver : Solver Float)

theorem outcome_assignDimension {k : Nat} (h : 1 ≤ k) (hlimit : k < dimensionLimit) :
    (solver.assignDimension (.int k)).outcome = .ok (solver.resize k) := by
  unfold assignDimension readDimension
  rw [readCount_natCast .dimension h]
  dsimp only
  rw [if_pos hlimit]
  rfl

theorem outcome_assign_maxIterations (k : Nat) : (solver.assign (.int k) .maxIterations).outcome
    = .ok { solver with settings := { solver.settings with maxIterations := k } } := by
  unfold assign Settings.setMaxIterations
  rw [readCount_natCast .maxIterations (Nat.zero_le k)]
  rfl

theorem outcome_assign_acceptStepThreshold {a : Float} (hpos : lt 0 a) (hlt : lt a 1) :
    (solver.assign (.real a) .acceptStepThreshold).outcome
      = .ok { solver with settings := { solver.settings with acceptStepThreshold := a } } := by
  have hadmits : Number.isProperFraction (.real a) := Bool.and_eq_true_iff.mpr ⟨hpos, hlt⟩
  unfold assign Settings.setAcceptStepThreshold
  rw [readReal_real .acceptStepThreshold hadmits]
  rfl

theorem outcome_assign_gradThreshold {a : Float} (ha : le 0 a) :
    (solver.assign (.real a) .gradThreshold).outcome
      = .ok { solver with settings := { solver.settings with gradThreshold := a } } := by
  have hadmits : Number.isNonneg (.real a) := decide_eq_true (Double.float_le_iff.mpr ha)
  unfold assign Settings.setGradThreshold
  rw [readReal_real .gradThreshold hadmits]
  rfl

theorem outcome_assign_regularization {a : Float} (ha : le 0 a) :
    (solver.assign (.real a) .regularization).outcome
      = .ok { solver with settings := { solver.settings with regularization := a } } := by
  have hadmits : Number.isNonneg (.real a) := decide_eq_true (Double.float_le_iff.mpr ha)
  unfold assign Settings.setRegularization
  rw [readReal_real .regularization hadmits]
  rfl

end Outcomes

/-- **A new solver can be made from the configuration of a configured one**, if there is working
memory for its dimension. -/
theorem make_configuration (h : solver.Configured) (hlimit : solver.dimension < dimensionLimit) :
    make (.int solver.dimension) (assignments solver.settings)
      = .ok (fresh solver.dimension solver.settings) := by
  obtain ⟨hdimension, hpos, hlt, hgrad, hreg⟩ := h
  refine bind_eq_ok_iff.mpr ⟨_, outcome_assignDimension _ hdimension hlimit, ?_⟩
  unfold optional
  simp only [List.foldlM_cons, List.foldlM_nil, assignments]
  refine bind_eq_ok_iff.mpr ⟨_, outcome_assign_maxIterations _ _, ?_⟩
  refine bind_eq_ok_iff.mpr ⟨_, outcome_assign_acceptStepThreshold _ hpos hlt, ?_⟩
  refine bind_eq_ok_iff.mpr ⟨_, outcome_assign_gradThreshold _ hgrad, ?_⟩
  refine bind_eq_ok_iff.mpr ⟨_, outcome_assign_regularization _ hreg, ?_⟩
  rfl

end Solver

end ProjectedNewton
