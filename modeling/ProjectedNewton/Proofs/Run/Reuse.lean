import ProjectedNewton.Proofs.Run.Advance

/-!
# A run does not see what it finds in its memory

Two runs of the same problem from the same start may work in different memory. Everything in it is
overwritten before it is read: the iterate by the start, the gradient at the beginning of each
iteration, direction and inverse by the first Newton step and the candidate by its line search. A
first iteration that stops before the Newton step makes an inverse of its own.

* `Run.Alike` relates two runs that differ at most in what they have found in their memory.
* `Run.step_alike` says that alike runs go on as the same run or end with the same report.
* `Workspace.solve_report` is the main result: the report of a run does not depend on its memory.
-/

namespace ProjectedNewton

variable {α : Type} [Scalar α] {n : Nat}

namespace Run

variable {p : Problem α n} {s : Settings α} {r r' : Run α n}

/-- Runs at the same point, with the same record, before their first iteration. What else is in
their memory is left open. -/
structure Alike (r r' : Run α n) : Prop where
  iterate : r.workspace.iterate = r'.workspace.iterate
  iterations : r.iterations = r'.iterations
  first : r.iterations = 0
  trace : r.trace = r'.trace

/-- The starts of two runs are alike. -/
theorem alike_start (w w' : Workspace α n) (p : Problem α n) (x : Vec α n) :
    Alike (start w p x) (start w' p x) :=
  ⟨rfl, rfl, rfl, rfl⟩

/-- Of two runs, both go on as the same run or both end with the same report. -/
inductive Agree : Progress α n → Progress α n → Prop
  | running (q : Run α n) : Agree (.running q) (.running q)
  | ended {e e' : Progress α n} (he : ∀ q, e ≠ .running q) (he' : ∀ q, e' ≠ .running q)
      (report : e.report = e'.report) : Agree e e'

/-- Alike runs end alike when they stop before the Newton step. -/
theorem stop_alike (h : Alike r r') (status : Status) :
    Agree ((r.observe p).stop p s status) ((r'.observe p).stop p s status) := by
  obtain ⟨⟨x, c, g, d, i⟩, part, k, t⟩ := r
  obtain ⟨⟨x', c', g', d', i'⟩, part', k', t'⟩ := r'
  obtain ⟨hx, hk, h0, ht⟩ := h
  dsimp only at hx hk h0 ht
  subst hx h0 hk ht
  unfold stop
  simp only [observe_iterations, if_true]
  dsimp only [observe]
  cases p.factorizeFree (p.partition x (p.gradient x)) s.regularization with
  | error e => exact .ended (by simp) (by simp) rfl
  | ok F => exact .ended (by simp) (by simp) rfl

/-- After the Newton step nothing is left of what two alike runs found in their memory, except for
the candidate, which only a line search reads. -/
theorem newton_alike (h : Alike r r') :
    Agree ((r.observe p).newton p s) ((r'.observe p).newton p s) := by
  obtain ⟨⟨x, c, g, d, i⟩, part, k, t⟩ := r
  obtain ⟨⟨x', c', g', d', i'⟩, part', k', t'⟩ := r'
  obtain ⟨hx, hk, -, ht⟩ := h
  dsimp only at hx hk ht
  subst hx hk ht
  unfold newton
  dsimp only [observe]
  cases p.factorizeFree (p.partition x (p.gradient x)) s.regularization with
  | error e => exact .ended (by simp) (by simp) rfl
  | ok F =>
    -- The candidates still differ here. The search that follows puts its last one in their place.
    dsimp only [keepInverse, count]
    split
    · exact .ended (by simp) (by simp) rfl
    · exact .running _

/-- **Alike runs go on as the same run, or end with the same report.** -/
theorem step_alike (h : Alike r r') : Agree (r.step p s) (r'.step p s) := by
  rw [step_eq, step_eq, ← h.iterate]
  cases p.stopStatus? s r.workspace.iterate with
  | some status => exact stop_alike h status
  | none => exact newton_alike h

/-- Alike runs report the same after any positive number of iterations. -/
theorem advance_alike (h : Alike r r') (k : Nat) :
    (r.advance p s (k + 1)).report = (r'.advance p s (k + 1)).report := by
  have hstep : Agree (r.step p s) (r'.step p s) := step_alike h
  generalize he : r.step p s = e, he' : r'.step p s = e' at hstep
  cases hstep with
  | running q =>
    unfold advance
    rw [he, he']
  | ended hended hended' hreport =>
    rw [advance_of_ended (he ▸ hended), advance_of_ended (he' ▸ hended'), he, he']
    exact hreport

end Run

/-- **The report of a run does not depend on the memory in which it works.** -/
theorem Workspace.solve_report (w w' : Workspace α n) (s : Settings α) (p : Problem α n)
    (start : Vec α n) : (w.solve s p start).2 = (w'.solve s p start).2 := by
  unfold Workspace.solve
  cases hm : s.maxIterations with
  | zero => rfl
  | succ k => exact Run.advance_alike (Run.alike_start w w' p start) k

end ProjectedNewton
