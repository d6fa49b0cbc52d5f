import ProjectedNewton.Control.Plant

/-!
# Trajectories under a control law

`Plant.follow` makes a trajectory by adding one knot after the other to the end. So the first knots
of a longer trajectory are those of a shorter one, and what holds of every added knot holds of every
knot: the control is what the law proposes for the state there, moved into its limits, and the plant
moves to the next state. There is only one trajectory from a state for which this is so
(`Plant.eq_of_law`).
-/

namespace ProjectedNewton

variable {α : Type} [Scalar α] {n m T : Nat}

namespace Plant

/-- The plant moves from every state of the trajectory to the next. -/
def Moves (plant : Plant α n m) (t : Trajectory α n m T) : Prop :=
  ∀ i : Fin T, t.state i.succ = plant.next (t.state i.castSucc) (t.control i)

variable (plant : Plant α n m) (law : ControlLaw α n m T) (x : Vec α n)

@[simp] theorem entry_limit (u : Vec α m) (j : Fin m) :
    plant.limit u j = Scalar.clamp (u j) (plant.lower j) (plant.upper j) :=
  Vec.entry_ofFn _ j

/-! ## Adding a knot -/

section Entries

variable {k : Nat} (h : k + 1 ≤ T)

theorem followTo_state_castSucc (i : Fin (k + 1)) :
    (plant.followTo law x (k + 1) h).state i.castSucc
      = (plant.followTo law x k (Nat.le_of_succ_le h)).state i :=
  Vec.entry_push_castSucc _ _ i

theorem followTo_control_castSucc (i : Fin k) :
    (plant.followTo law x (k + 1) h).control i.castSucc
      = (plant.followTo law x k (Nat.le_of_succ_le h)).control i :=
  Vec.entry_push_castSucc _ _ i

theorem followTo_control_last : (plant.followTo law x (k + 1) h).control (Fin.last k)
      = plant.limit (law ⟨k, h⟩
          ((plant.followTo law x k (Nat.le_of_succ_le h)).state (Fin.last k))) :=
  Vec.entry_push_last _ _

theorem followTo_state_last : (plant.followTo law x (k + 1) h).state (Fin.last (k + 1))
      = plant.next ((plant.followTo law x k (Nat.le_of_succ_le h)).state (Fin.last k))
          ((plant.followTo law x (k + 1) h).control (Fin.last k)) := by
  rw [followTo_control_last]
  exact Vec.entry_push_last _ _

end Entries

/-! ## All knots -/

theorem followTo_state_zero {k : Nat} (h : k ≤ T) : (plant.followTo law x k h).state 0 = x := by
  induction k with
  | zero => rfl
  | succ k ih =>
    rw [← Fin.castSucc_zero, followTo_state_castSucc]
    exact ih (Nat.le_of_succ_le h)

theorem followTo_control {k : Nat} (h : k ≤ T) (i : Fin k) :
    (plant.followTo law x k h).control i
      = plant.limit (law (i.castLE h) ((plant.followTo law x k h).state i.castSucc)) := by
  induction k with
  | zero => exact i.elim0
  | succ k ih =>
    rw [followTo_state_castSucc]
    cases i using Fin.lastCases with
    | last => exact followTo_control_last plant law x h
    | cast i =>
      rw [followTo_control_castSucc]
      exact ih (Nat.le_of_succ_le h) i

theorem moves_followTo {k : Nat} (h : k ≤ T) : plant.Moves (plant.followTo law x k h) := by
  induction k with
  | zero => exact fun i => i.elim0
  | succ k ih =>
    intro i
    rw [followTo_state_castSucc]
    cases i using Fin.lastCases with
    | last => exact followTo_state_last plant law x h
    | cast i =>
      rw [Fin.succ_castSucc, followTo_state_castSucc, followTo_control_castSucc]
      exact ih (Nat.le_of_succ_le h) i

theorem follow_state_zero : (plant.follow law x).state 0 = x :=
  followTo_state_zero plant law x (Nat.le_refl T)

/-- **The controls of a trajectory are those of the law**, moved into their limits. -/
theorem follow_control (i : Fin T) : (plant.follow law x).control i
      = plant.limit (law i ((plant.follow law x).state i.castSucc)) :=
  followTo_control plant law x (Nat.le_refl T) i

/-- **The plant moves along the trajectory.** -/
theorem moves_follow : plant.Moves (plant.follow law x) :=
  moves_followTo plant law x (Nat.le_refl T)

variable {plant law} {t t' : Trajectory α n m T}

/-- **Start and control law determine a trajectory.** -/
theorem eq_of_law (ht : plant.Moves t) (ht' : plant.Moves t') (hstart : t.state 0 = t'.state 0)
    (hlaw : ∀ i, t.control i = law i (t.state i.castSucc))
    (hlaw' : ∀ i, t'.control i = law i (t'.state i.castSucc)) : t = t' := by
  have hstate (i : Fin (T + 1)) : t.state i = t'.state i := by
    induction i using Fin.induction with
    | zero => exact hstart
    | succ i ih => rw [ht i, ht' i, hlaw i, hlaw' i, ih]
  have hcontrol (i : Fin T) : t.control i = t'.control i := by
    rw [hlaw i, hlaw' i, hstate i.castSucc]
  obtain ⟨states, controls⟩ := t
  obtain ⟨states', controls'⟩ := t'
  obtain rfl : states = states' := Vec.ext_entry hstate
  obtain rfl : controls = controls' := Vec.ext_entry hcontrol
  rfl

end Plant

end ProjectedNewton
