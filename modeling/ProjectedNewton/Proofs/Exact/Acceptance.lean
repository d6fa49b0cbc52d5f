import ProjectedNewton.Proofs.Exact.Separable

/-!
# Why a line search fails

Without regularization the objective is a parabola along the Newton direction, and the full step
leads to its vertex. So a step of length `a` that stays in the box brings the share `1 - a / 2` of
what is predicted, whatever the problem is. It is accepted exactly if this is more than the share
`t` that is asked for, that is if `a < 2 * (1 - t)`.

A search that accepts nothing therefore has no direction, or asks for more than even the shortest of
its steps can bring, or this step still leads out of the box.

* `LineSearch.acceptedLength_eq_some_iff`: a search accepts the largest step length that passes,
  because it tries them in decreasing order.
* `LineSearch.Sharp` says what the search along a Newton direction accepts.
* `Solver.sharp_of_searches` is the main result.
-/

namespace ProjectedNewton

open Scalar

variable {n : ℕ}

/-! ## Step lengths -/

namespace Exact

theorem halving_eq (i : ℕ) : (halving i : ℝ) = (1 / 2) ^ i := by
  induction i with
  | zero => rfl
  | succ i ih => rw [halving, ih, half_eq, pow_succ]

theorem mem_stepLengths_iff {a : ℝ} : a ∈ stepLengths ↔ ∃ i < stepCount, (1 / 2) ^ i = a := by
  unfold stepLengths
  simp only [List.mem_map, List.mem_range, halving_eq]

theorem pairwise_stepLengths : (stepLengths : List ℝ).Pairwise (· > ·) := by
  unfold stepLengths
  refine List.pairwise_map.mpr (List.pairwise_lt_range.imp ?_)
  intro i j hij
  rw [halving_eq, halving_eq]
  exact pow_lt_pow_right_of_lt_one₀ one_half_pos one_half_lt_one hij

theorem one_mem_stepLengths : (1 : ℝ) ∈ stepLengths :=
  mem_stepLengths_iff.mpr ⟨0, by decide, pow_zero _⟩

theorem shortest_mem_stepLengths : (1 / 512 : ℝ) ∈ stepLengths :=
  mem_stepLengths_iff.mpr ⟨9, by decide, by norm_num⟩

/-- The step lengths lie between the shortest one and one. -/
theorem bounds_of_mem_stepLengths {a : ℝ} (h : a ∈ stepLengths) : 1 / 512 ≤ a ∧ a ≤ 1 := by
  obtain ⟨i, hi, rfl⟩ := mem_stepLengths_iff.mp h
  constructor
  · have hle : i ≤ 9 := Nat.le_of_lt_succ hi
    calc (1 / 512 : ℝ) = (1 / 2) ^ 9 := by norm_num
      _ ≤ (1 / 2) ^ i := pow_le_pow_of_le_one one_half_pos.le one_half_lt_one.le hle
  · exact pow_le_one₀ one_half_pos.le one_half_lt_one.le

end Exact

/-! ## The accepted length -/

/-- The first element of a decreasing list that passes a test is the largest one. -/
theorem find?_eq_some_iff_isGreatest {l : List ℝ} (h : l.Pairwise (· > ·)) {P : ℝ → Bool} {a : ℝ} :
    l.find? P = some a ↔ IsGreatest {b | b ∈ l ∧ P b} a := by
  induction l with
  | nil => simp [IsGreatest]
  | cons b l ih =>
    obtain ⟨hb, hl⟩ := List.pairwise_cons.mp h
    by_cases hP : P b
    · rw [List.find?_cons_of_pos hP, Option.some.injEq]
      have hgreatest : IsGreatest {c | c ∈ b :: l ∧ P c} b := by
        refine ⟨⟨List.mem_cons_self, hP⟩, ?_⟩
        rintro c ⟨hc, -⟩
        rcases List.mem_cons.mp hc with rfl | hc
        · exact le_rfl
        · exact (hb c hc).le
      constructor
      · rintro rfl
        exact hgreatest
      · exact fun ha => hgreatest.unique ha
    · have hsame : {c | c ∈ b :: l ∧ P c} = {c | c ∈ l ∧ P c} := by
        ext c
        simp only [Set.mem_ofPred_eq, List.mem_cons]
        constructor
        · rintro ⟨rfl | hc, hPc⟩
          · exact absurd hPc hP
          · exact ⟨hc, hPc⟩
        · rintro ⟨hc, hPc⟩
          exact ⟨Or.inr hc, hPc⟩
      rw [List.find?_cons_of_neg hP, ih hl, hsame]

/-- The point at the distance `a` along the direction of a search, before it is moved back into the
box. -/
def LineSearch.ahead {α : Type} [Scalar α] (l : LineSearch α n) (a : α) : Vec α n :=
  (l.direction.scale a).add l.start

namespace LineSearch

variable {l : LineSearch ℝ n} {a : ℝ}

/-- **A search accepts the largest step length that passes.** -/
theorem acceptedLength_eq_some_iff :
    l.acceptedLength = some a ↔ IsGreatest {b | b ∈ stepLengths ∧ l.accepts b} a :=
  find?_eq_some_iff_isGreatest Exact.pairwise_stepLengths

theorem acceptedLength_eq_none_iff :
    l.acceptedLength = none ↔ ∀ b ∈ stepLengths, ¬l.accepts b :=
  List.find?_eq_none

theorem ahead_apply (l : LineSearch ℝ n) (a : ℝ) (i : Fin n) :
    l.ahead a i = l.direction i * a + l.start i := by
  unfold ahead
  rw [Vec.entry_add, Vec.entry_scale]

/-- If the full step stays in the box, so do the shorter ones. -/
theorem inBox_ahead (hstart : l.problem.InBox l.start) (hfull : l.problem.InBox (l.ahead 1))
    (ha : 0 ≤ a) (ha' : a ≤ 1) : l.problem.InBox (l.ahead a) := by
  intro i
  have hs := hstart i
  have hf := hfull i
  rw [ahead_apply] at hf
  rw [ahead_apply]
  constructor
  · nlinarith
  · nlinarith

/-- What a line search along a Newton direction accepts. The share `t` of the prediction that it
asks for decides, as far as the box lets the steps alone. -/
structure Sharp (l : LineSearch ℝ n) : Prop where
  /-- A step that stays in the box is accepted if it is shorter than `2 * (1 - t)`. -/
  accepts_iff {a : ℝ} : l.direction ≠ Vec.zero n → a ∈ stepLengths → l.problem.InBox (l.ahead a) →
    (l.accepts a ↔ a < 2 * (1 - l.threshold))
  /-- If no step is accepted, then there is no direction, or too much is asked for, or even the
  shortest step leads out of the box. -/
  rejected : l.acceptedLength = none → l.direction = Vec.zero n ∨ 1 - 1 / 1024 ≤ l.threshold ∨
    ¬l.problem.InBox (l.ahead (1 / 512))
  /-- If the full step stays in the box, the largest length below `2 * (1 - t)` is accepted. -/
  accepted_iff {a : ℝ} : l.direction ≠ Vec.zero n → l.problem.InBox (l.ahead 1) →
    (l.acceptedLength = some a ↔ IsGreatest {b | b ∈ stepLengths ∧ b < 2 * (1 - l.threshold)} a)
  /-- Then only a threshold of at least `1 - 1 / 1024` makes the search fail. -/
  rejected_iff : l.direction ≠ Vec.zero n → l.problem.InBox (l.ahead 1) →
    (l.acceptedLength = none ↔ 1 - 1 / 1024 ≤ l.threshold)

/-- Everything follows from the test of a single step. -/
theorem sharp_of_accepts_iff (hstart : l.problem.InBox l.start)
    (haccepts : ∀ {a : ℝ}, l.direction ≠ Vec.zero n → a ∈ stepLengths →
      l.problem.InBox (l.ahead a) → (l.accepts a ↔ a < 2 * (1 - l.threshold))) : l.Sharp := by
  have hall (hd : l.direction ≠ Vec.zero n) (hfull : l.problem.InBox (l.ahead 1)) {b : ℝ}
      (hb : b ∈ stepLengths) : l.accepts b ↔ b < 2 * (1 - l.threshold) := by
    obtain ⟨hlow, hup⟩ := Exact.bounds_of_mem_stepLengths hb
    exact haccepts hd hb (inBox_ahead hstart hfull (by linarith) hup)
  refine ⟨haccepts, ?_, ?_, ?_⟩
  · intro hnone
    by_contra! h
    obtain ⟨hd, ht, hbox⟩ := h
    have hshortest := Exact.shortest_mem_stepLengths
    refine acceptedLength_eq_none_iff.mp hnone _ hshortest ((haccepts hd hshortest hbox).mpr ?_)
    linarith
  · intro a hd hfull
    have hsame : {b | b ∈ stepLengths ∧ l.accepts b}
        = {b | b ∈ stepLengths ∧ b < 2 * (1 - l.threshold)} :=
      Set.ext fun b => and_congr_right fun hb => hall hd hfull hb
    rw [acceptedLength_eq_some_iff, hsame]
  · intro hd hfull
    rw [acceptedLength_eq_none_iff]
    constructor
    · intro hnone
      have hshortest := Exact.shortest_mem_stepLengths
      have hrejected := hnone _ hshortest
      rw [hall hd hfull hshortest] at hrejected
      linarith
    · intro ht b hb
      have hlow := (Exact.bounds_of_mem_stepLengths hb).1
      rw [hall hd hfull hb]
      linarith

end LineSearch

/-! ## The searches of a run -/

namespace Problem

variable {p : Problem ℝ n} {s : Settings ℝ} {x : Vec ℝ n}
  {F : Factorization ℝ (p.split x).free.length}

/-- **The line search along a Newton direction is sharp**, from any point of the box. -/
theorem sharp_search (hH : p.hessianMatrix.IsSymm) (hr : s.regularization = 0)
    (hF : p.factorizeAt? s x = some F) (hx : p.InBox x) : (p.search s x F).Sharp := by
  refine LineSearch.sharp_of_accepts_iff hx ?_
  intro a hd ha hbox
  have hpos : 0 < a := lt_of_lt_of_le (by norm_num) (Exact.bounds_of_mem_stepLengths ha).1
  have hcandidate : (p.search s x F).candidate a = (p.search s x F).ahead a :=
    project_of_inBox hbox
  refine accepts_iff_of_step hH hF hr hpos hd ?_
  funext i
  rw [hcandidate, LineSearch.ahead_apply, Pi.add_apply, Pi.smul_apply, smul_eq_mul, mul_comm,
    add_comm]
  rfl

end Problem

/-- Iteration `k` of a solve, counted from zero, carries out its line search, which starts at `x`
along the Newton direction that `F` gives. -/
structure Solver.Searches {α : Type} [Scalar α] (solver : Solver α)
    (p : Problem α solver.dimension) (start : Vec α solver.dimension) (k : ℕ)
    (x : Vec α solver.dimension) (F : Factorization α (p.split x).free.length) : Prop where
  budget : k < solver.settings.maxIterations
  reached : p.Reaches solver.settings start k x
  unconverged : p.Unconverged solver.settings x
  factored : p.factorizeAt? solver.settings x = some F

/-- The next iterate is the point where the search lands. -/
theorem Solver.Searches.reaches_succ {α : Type} [Scalar α] {solver : Solver α}
    {p : Problem α solver.dimension} {start x : Vec α solver.dimension} {k : ℕ}
    {F : Factorization α (p.split x).free.length} (h : solver.Searches p start k x F) :
    p.Reaches solver.settings start (k + 1) (p.search solver.settings x F).landing := by
  obtain ⟨r, hr, rfl⟩ := h.reached
  refine ⟨_, Run.advance_succ_running_iff.mpr ⟨r, hr, Run.step_of_newton
    h.unconverged.stopStatus?_eq_none h.factored (h.unconverged.large h.factored)⟩, ?_⟩
  exact Run.descend_direct_iterate p solver.settings r F

/-- **Every line search of a solve is sharp**, without regularization and with bounds in order, and
the run goes on from where it lands. -/
theorem Solver.sharp_of_searches {solver : Solver ℝ} {p : Problem ℝ solver.dimension}
    {start x : Vec ℝ solver.dimension} {k : ℕ} {F : Factorization ℝ (p.split x).free.length}
    (hH : p.hessianMatrix.IsSymm) (hr : solver.settings.regularization = 0)
    (hbox : ∀ i, p.lower i ≤ p.upper i) (h : solver.Searches p start k x F) :
    (p.search solver.settings x F).Sharp ∧
      p.Reaches solver.settings start (k + 1) (p.search solver.settings x F).landing := by
  have hx : p.InBox x := by
    rw [← Problem.project_of_reaches h.reached]
    exact Problem.inBox_project hbox x
  exact ⟨Problem.sharp_search hH hr h.factored hx, h.reaches_succ⟩

/-- In the corner a quarter of the prediction is asked for, and the full step stays in the box. -/
theorem Solver.sharp_corner : ∃ F,
    Solver.Searches ⟨2, Settings.quarter 1, .fresh 2 none⟩ Problem.corner (Vec.zero 2) 0
      (Vec.zero 2) F ∧
    (Problem.corner.search (Settings.quarter 1) (Vec.zero 2) F).Sharp ∧
    (Problem.corner.search (Settings.quarter 1) (Vec.zero 2) F).acceptedLength = some 1 := by
  obtain ⟨F, hF⟩ := Problem.exists_factorizeAt?_corner (m := 1) (Vec.zero 2)
  have hsearches : Solver.Searches ⟨2, Settings.quarter 1, .fresh 2 none⟩ Problem.corner
      (Vec.zero 2) 0 (Vec.zero 2) F :=
    ⟨Nat.one_pos, Problem.reaches_zero.mpr Problem.project_corner.symm,
      Problem.unconverged_of_large (Problem.stopStatus?_corner four_pos) hF Problem.large_corner,
      hF⟩
  obtain ⟨hsharp, -⟩ := @Solver.sharp_of_searches ⟨2, Settings.quarter 1, .fresh 2 none⟩ _ _ _ _ F
    Problem.posDef_corner.isHermitian rfl Problem.lower_le_upper_corner hsearches
  have hdirection : Problem.corner.directionAt (Vec.zero 2) F ≠ Vec.zero 2 := by
    rw [Problem.directionAt_corner hF]
    exact Problem.cornerMinimum_ne_zero
  have hfull : Problem.corner.InBox
      ((Problem.corner.search (Settings.quarter 1) (Vec.zero 2) F).ahead 1) := by
    have hminimum := Problem.inBox_project Problem.lower_le_upper_corner Problem.cornerMinimum
    rw [Problem.project_cornerMinimum, ← Problem.full_step_corner hF] at hminimum
    exact hminimum
  refine ⟨F, hsearches, hsharp, (hsharp.accepted_iff hdirection hfull).mpr ⟨⟨?_, ?_⟩, ?_⟩⟩
  · exact Exact.one_mem_stepLengths
  · show (1 : ℝ) < 2 * (1 - half * half)
    norm_num
  · rintro b ⟨hb, -⟩
    exact (Exact.bounds_of_mem_stepLengths hb).2

end ProjectedNewton
