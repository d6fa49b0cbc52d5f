import ProjectedNewton.Proofs.Solver.Outcome

/-!
# The first bad argument

A solve goes through its five arguments in a fixed order, and is done with one before it turns to
the next: the argument is read, and then its shape is compared with the one that it should have. So
the first bad argument decides the error, whatever the later ones are, and nothing has been touched
by then. How values are read does not matter here.

If no argument is bad, then only a factorization can fail, in any iteration. By then the working
memory has been overwritten, but not the configuration, and not the last solution.

* `Argument.failure?` says what is wrong with a single argument.
* `Arguments.errorOf_check`: the error of a check is the first of these failures.
* `Solver.validates` is the main result.
-/

namespace ProjectedNewton

variable {α : Type} {n : Nat}

/-! ## The arguments in their order -/

namespace Input

/-- The arguments of a solve, in the order in which they are checked. -/
def all : List Input := [hessian, linear, lower, upper, start]

theorem mem_all (input : Input) : input ∈ all := by
  cases input <;> decide

/-- The shape of an argument in `n` coordinates. -/
def shape (n : Nat) : Input → List Nat
  | hessian => [n, n]
  | _ => [n]

/-- The shape as it is reported. -/
def expected (n : Nat) : Input → String
  | hessian => toString n ++ "," ++ toString n
  | _ => toString n

/-- An argument of the wrong shape is reported by its name, with the shape that it should have. -/
theorem report_wrongShape (input : Input) :
    (Rejection.wrongShape input (input.shape n)).report
      = ⟨input.name, input.expected n, none⟩ := by
  cases input <;> rfl

end Input

/-- What is wrong with an argument: it cannot be read, or it does not have its shape. -/
def Argument.failure? (argument : Argument α) (input : Input) (n : Nat) : Option (Failure α) :=
  match argument with
  | .error e => some (.unreadable e)
  | .ok t =>
    if t.shape = input.shape n then none
    else some (.rejected (.wrongShape input (input.shape n)))

/-- The arguments that are read from given values. -/
def Arguments.read {ρ : Type} (convert : ρ → Argument α) (values : Input → ρ) : Arguments α where
  hessian := convert (values .hessian)
  linear := convert (values .linear)
  lower := convert (values .lower)
  upper := convert (values .upper)
  start := convert (values .start)

/-! ## The first failure -/

/-- A computation fails in its first part, or else in its second one. -/
theorem errorOf_bind {ε β γ : Type} {x : Except ε β} {f : β → Except ε γ} {later : Option ε}
    (h : ∀ b, errorOf (f b) = later) : errorOf (x >>= f) = (errorOf x).or later := by
  cases x with
  | error e => rfl
  | ok b => exact h b

/-- A failed check says what is wrong with the argument. -/
theorem Argument.errorOf_inShape (argument : Argument α) (input : Input) (n : Nat) :
    errorOf (argument.inShape input (input.shape n)) = argument.failure? input n := by
  unfold inShape failure?
  cases argument with
  | error e => rfl
  | ok t =>
    unfold Tensor.inShape?
    dsimp only
    by_cases hshape : t.shape = input.shape n
    · rw [dif_pos hshape, if_pos hshape]
      rfl
    · rw [dif_neg hshape, if_neg hshape]
      rfl

/-- A bad argument is no breakdown. -/
theorem Argument.failure?_ne_failure {argument : Argument α} {input : Input} {e : Failure α}
    (h : argument.failure? input n = some e) (b : FactorizationError α) : e ≠ b.failure := by
  unfold failure? at h
  split at h
  · cases h
    cases b <;> nofun
  · split at h
    · cases h
    · cases h
      cases b <;> nofun

/-- The first element that gives a result gives it for the list. -/
theorem findSome?_cons_eq_or {β γ : Type} (f : β → Option γ) (b : β) (l : List β) :
    (b :: l).findSome? f = (f b).or (l.findSome? f) := by
  rw [List.findSome?_cons]
  cases f b with
  | none => rfl
  | some c => rfl

section Read

variable {ρ : Type} {convert : ρ → Argument α} {values : Input → ρ}

/-- **The error of a check is the first failure**, in the order of the arguments. -/
theorem Arguments.errorOf_check : errorOf ((read convert values).check n)
    = Input.all.findSome? fun input => (convert (values input)).failure? input n := by
  unfold Input.all
  simp only [findSome?_cons_eq_or, ← Argument.errorOf_inShape]
  refine errorOf_bind fun hessian => ?_
  refine errorOf_bind fun linear => ?_
  refine errorOf_bind fun lower => ?_
  refine errorOf_bind fun upper => ?_
  exact errorOf_bind fun start => rfl

theorem Arguments.errorOf_check_eq_none_iff : errorOf ((read convert values).check n) = none ↔
    ∀ input, (convert (values input)).failure? input n = none := by
  rw [errorOf_check, List.findSome?_eq_none_iff]
  exact ⟨fun h input => h input input.mem_all, fun h input _ => h input⟩

/-- The error of a check is what is wrong with some argument. -/
theorem Arguments.exists_failure?_of_errorOf_check {e : Failure α}
    (h : errorOf ((read convert values).check n) = some e) :
    ∃ input, (convert (values input)).failure? input n = some e := by
  rw [errorOf_check] at h
  obtain ⟨input, -, he⟩ := List.exists_of_findSome?_eq_some h
  exact ⟨input, he⟩

end Read

/-! ## What a solve makes of it -/

namespace Solver

variable [Scalar α] {solver : Solver α} {arguments : Arguments α}

/-- A solve that refuses an argument touches nothing and reports nothing. -/
theorem solve_of_errorOf_check {e : Failure α}
    (h : errorOf (arguments.check solver.dimension) = some e) :
    solver.solve arguments = (solver, ⟨.error e, #[]⟩) := by
  unfold solve
  cases hcheck : arguments.check solver.dimension with
  | ok checked =>
    rw [hcheck] at h
    cases h
  | error e' =>
    rw [hcheck] at h
    cases h
    rfl

/-- Arguments that are not refused are those of a problem, and only a factorization can fail. -/
theorem exists_ofProblem_of_errorOf_check (h : errorOf (arguments.check solver.dimension) = none) :
    ∃ p start, arguments = .ofProblem p start ∧
      ((∃ sol, solver.Returns p start sol) ∨ ∃ b, solver.Breaks p start b) := by
  cases hcheck : arguments.check solver.dimension with
  | error e =>
    rw [hcheck] at h
    cases h
  | ok checked =>
    obtain ⟨p, start⟩ := checked
    exact ⟨p, start, Arguments.check_eq_ok_iff.mp hcheck, returns_or_breaks solver p start⟩

/-- A solve that refuses no argument fails by a breakdown or not at all. -/
theorem breaks_of_errorOf_check {e : Failure α}
    (h : errorOf (arguments.check solver.dimension) = none)
    (he : (solver.solve arguments).2.outcome = .error e) :
    ∃ b : FactorizationError α, e = b.failure := by
  obtain ⟨p, start, rfl, ⟨sol, hreturns⟩ | ⟨b, hbreaks⟩⟩ := exists_ofProblem_of_errorOf_check h
  · rw [hreturns] at he
    cases he
  · rw [hbreaks] at he
    cases he
    exact ⟨b, rfl⟩

/-- What a solve does about bad arguments, for arguments that `convert` reads from `values`. -/
structure Validates {ρ : Type} (solver : Solver α) (convert : ρ → Argument α)
    (values : Input → ρ) : Prop where
  /-- It fails without a breakdown exactly if some argument is bad. -/
  fails_iff : (∃ e, (solver.solve (.read convert values)).2.outcome = .error e ∧
      ∀ b : FactorizationError α, e ≠ b.failure) ↔
    ∃ input, (convert (values input)).failure? input solver.dimension ≠ none
  /-- The first bad argument decides the error. The solver is as it was before, and nothing is
  reported. -/
  refused {before after : List Input} {input : Input} {e : Failure α} :
    Input.all = before ++ input :: after →
      (∀ earlier ∈ before, (convert (values earlier)).failure? earlier solver.dimension = none) →
        (convert (values input)).failure? input solver.dimension = some e →
          solver.solve (.read convert values) = (solver, ⟨.error e, #[]⟩)
  /-- If no argument is bad, they are those of a problem, of which the solver returns a solution
  unless it breaks down. -/
  accepted : (∀ input, (convert (values input)).failure? input solver.dimension = none) →
    ∃ p start, .read convert values = Arguments.ofProblem p start ∧
      ((∃ sol, solver.Returns p start sol) ∨ ∃ b, solver.Breaks p start b)
  /-- A wrong shape is reported with the name of the argument and the shape that it should have. -/
  reported (input : Input) : (Rejection.wrongShape input (input.shape solver.dimension)).report
    = ⟨input.name, input.expected solver.dimension, none⟩
  /-- After a breakdown the configuration and the last solution are as before. -/
  broken {b : FactorizationError α} :
    (solver.solve (.read convert values)).2.outcome = .error b.failure →
      (solver.solve (.read convert values)).1.dimension = solver.dimension ∧
      (solver.solve (.read convert values)).1.settings = solver.settings ∧
      (solver.solve (.read convert values)).1.solution = solver.solution

/-- **The first bad argument decides, and a failure leaves the solver intact**, whatever the values
are and however they are read. -/
theorem validates {ρ : Type} (solver : Solver α) (convert : ρ → Argument α)
    (values : Input → ρ) : solver.Validates convert values where
  fails_iff := by
    constructor
    · rintro ⟨e, he, hcause⟩
      refine Classical.not_forall.mp ?_
      intro hgood
      obtain ⟨b, hb⟩ :=
        breaks_of_errorOf_check (Arguments.errorOf_check_eq_none_iff.mpr hgood) he
      exact hcause b hb
    · rintro ⟨input, hbad⟩
      cases hcheck : errorOf ((Arguments.read convert values).check solver.dimension) with
      | none => exact absurd (Arguments.errorOf_check_eq_none_iff.mp hcheck input) hbad
      | some e =>
        obtain ⟨input', he⟩ := Arguments.exists_failure?_of_errorOf_check hcheck
        rw [solve_of_errorOf_check hcheck]
        exact ⟨e, rfl, Argument.failure?_ne_failure he⟩
  refused := by
    intro before after input e hall hearlier hbad
    refine solve_of_errorOf_check ?_
    rw [Arguments.errorOf_check, List.findSome?_eq_some_iff]
    exact ⟨before, input, after, hall, hbad, hearlier⟩
  accepted := by
    intro hgood
    exact exists_ofProblem_of_errorOf_check (Arguments.errorOf_check_eq_none_iff.mpr hgood)
  reported := Input.report_wrongShape
  broken := by
    intro b hbreaks
    obtain ⟨hdimension, hsettings⟩ := solve_configuration solver (.read convert values)
    refine ⟨hdimension, hsettings, ?_⟩
    rw [solve_solution, hbreaks]
    rfl

end Solver

/-! ## Two bad arguments -/

theorem Tensor.ofDatum_real (x : Float) : ofDatum (.real x) = .ok ⟨[], x⟩ := by
  have hshape : shapeOf (.real x) = .ok [] := by simp [shapeOf]
  unfold ofDatum
  rw [hshape]
  rfl

theorem Tensor.ofDatum_object : ofDatum .object = .error .wrongKind := by
  have hshape : shapeOf .object = .ok [] := by simp [shapeOf]
  unfold ofDatum
  rw [hshape]
  rfl

/-- A number in place of the Hessian, and nothing that could be read in the other places. -/
def Input.misshapen : Input → Datum
  | hessian => .real 1.0
  | _ => .object

/-- The second value cannot even be read, but the first one decides the error. -/
theorem Solver.validates_misshapen :
    Argument.failure? (Tensor.ofDatum (Input.misshapen .linear)) .linear 2
      = some (.unreadable .wrongKind) ∧
    (Solver.fresh 2 Settings.standard).solve (.read Tensor.ofDatum Input.misshapen)
      = (Solver.fresh 2 Settings.standard,
          ⟨.error (.rejected (.wrongShape .hessian [2, 2])), #[]⟩) := by
  constructor
  · show Argument.failure? (Tensor.ofDatum .object) .linear 2 = _
    rw [Tensor.ofDatum_object]
    rfl
  · have hfirst : Input.all = [] ++ .hessian :: [.linear, .lower, .upper, .start] := rfl
    refine (validates (Solver.fresh 2 .standard) _ _).refused hfirst ?_ ?_
    · intro earlier hearlier
      exact absurd hearlier List.not_mem_nil
    · show Argument.failure? (Tensor.ofDatum (.real 1.0)) .hessian 2 = _
      rw [Tensor.ofDatum_real]
      rfl

end ProjectedNewton
