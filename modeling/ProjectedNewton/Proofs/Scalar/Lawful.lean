import ProjectedNewton.LineSearch

/-!
# The laws of doubles that the solver relies on

`Scalar` asks for no law. `LawfulScalar` adds those that hold of doubles, infinities and NaN
included, and of the real numbers:

* a comparison with NaN is false, and the other numbers are ordered linearly, where `eq` is the
  equality of the order (so that the two zeros are equal);
* NaN is absorbing in `+`, `-` and `*`;
* `0 * a + v` equals `v` for finite `a`, and the step lengths of a line search are finite.

From these laws follow the properties of `clamp`, which moves a number into an interval: the result
lies in the interval if there is one, is the upper bound if the bounds are crossed, and is not moved
again (`clamp_clamp`).
-/

namespace ProjectedNewton

open Scalar

/-- A number whose difference from itself is a number: neither infinite nor NaN. -/
def Scalar.isFinite {α : Type} [Scalar α] (a : α) : Bool := !isNaN (a - a)

/-- Scalars that compare and compute as doubles do. -/
class LawfulScalar (α : Type) [Scalar α] : Prop where
  isNaN_of_lt {a b : α} : lt a b → isNaN a = false ∧ isNaN b = false
  isNaN_of_eq {a b : α} : eq a b → isNaN a = false ∧ isNaN b = false
  eq_symm {a b : α} : eq a b → eq b a
  le_total {a b : α} : isNaN a = false → isNaN b = false → le a b ∨ le b a
  le_trans {a b c : α} : le a b → le b c → le a c
  le_antisymm {a b : α} : le a b → le b a → eq a b
  not_le_of_lt {a b : α} : lt a b → ¬le b a
  isNaN_add {a b : α} : isNaN a ∨ isNaN b → isNaN (a + b)
  isNaN_sub {a b : α} : isNaN a ∨ isNaN b → isNaN (a - b)
  isNaN_mul {a b : α} : isNaN a ∨ isNaN b → isNaN (a * b)
  zero_mul_add {a v : α} : isFinite a → isNaN v = false → eq (0 * a + v) v
  isFinite_of_mem_stepLengths {a : α} : a ∈ (stepLengths : List α) → isFinite a

namespace Scalar

variable {α : Type} [Scalar α]

/-! ## The order -/

theorem le_of_lt {a b : α} (h : lt a b) : le a b := by
  simp [le, h]

theorem le_of_eq {a b : α} (h : eq a b) : le a b := by
  simp [le, h]

/-- A number equals itself, by the definition of NaN. -/
theorem eq_self {a : α} (h : isNaN a = false) : eq a a := by
  simpa [isNaN] using h

theorem le_refl {a : α} (h : isNaN a = false) : le a a := le_of_eq (eq_self h)

section Lawful

variable [LawfulScalar α]

/-- What is compared is a number. -/
theorem isNaN_of_le {a b : α} (h : le a b) : isNaN a = false ∧ isNaN b = false := by
  unfold le at h
  rcases Bool.or_eq_true_iff.mp h with h | h
  · exact LawfulScalar.isNaN_of_lt h
  · exact LawfulScalar.isNaN_of_eq h

theorem le_or_lt {a b : α} (ha : isNaN a = false) (hb : isNaN b = false) : le a b ∨ lt b a := by
  rcases LawfulScalar.le_total ha hb with h | h
  · exact Or.inl h
  · simp only [le, Bool.or_eq_true] at h
    rcases h with h | h
    · exact Or.inr h
    · exact Or.inl (le_of_eq (LawfulScalar.eq_symm h))

theorem le_of_not_lt {a b : α} (ha : isNaN a = false) (hb : isNaN b = false) (h : ¬lt b a) :
    le a b :=
  (le_or_lt ha hb).resolve_right h

theorem eq_trans {a b c : α} (h : eq a b) (h' : eq b c) : eq a c :=
  LawfulScalar.le_antisymm (LawfulScalar.le_trans (le_of_eq h) (le_of_eq h'))
    (LawfulScalar.le_trans (le_of_eq (LawfulScalar.eq_symm h')) (le_of_eq (LawfulScalar.eq_symm h)))

/-! ## NaN in sums -/

theorem isNaN_foldl_add {n : Nat} (f : Fin n → α) (a : α) (h : isNaN a ∨ ∃ i, isNaN (f i)) :
    isNaN (Fin.foldl n (fun acc i => acc + f i) a) := by
  induction n with
  | zero =>
    rcases h with h | ⟨i, _⟩
    · simpa using h
    · exact i.elim0
  | succ n ih =>
    rw [Fin.foldl_succ_last]
    refine LawfulScalar.isNaN_add ?_
    rcases h with h | ⟨i, hi⟩
    · exact Or.inl (ih (fun i => f i.castSucc) (Or.inl h))
    · cases i using Fin.lastCases with
      | last => exact Or.inr hi
      | cast i => exact Or.inl (ih (fun i => f i.castSucc) (Or.inr ⟨i, hi⟩))

/-- A sum with a term that is NaN is NaN. -/
theorem isNaN_sum {n : Nat} {f : Fin n → α} (i : Fin n) (h : isNaN (f i)) : isNaN (sum f) := by
  match n, f, i with
  | 1, f, i =>
    rw [Subsingleton.elim i 0] at h
    exact h
  | n + 2, f, i => exact isNaN_foldl_add f 0 (Or.inr ⟨i, h⟩)

end Lawful

/-! ## Moving a number into an interval -/

theorem larger_eq {v l : α} (hv : isNaN v = false) : larger v l = if lt l v then v else l := by
  simp [larger, hv]

theorem smaller_eq {v u : α} (hv : isNaN v = false) : smaller v u = if lt v u then v else u := by
  simp [smaller, hv]

theorem isNaN_larger {v l : α} (hv : isNaN v = false) (hl : isNaN l = false) :
    isNaN (larger v l) = false := by
  rw [larger_eq hv]
  split
  · exact hv
  · exact hl

theorem isNaN_clamp {v l u : α} (hv : isNaN v = false) (hl : isNaN l = false)
    (hu : isNaN u = false) : isNaN (clamp v l u) = false := by
  unfold clamp
  rw [smaller_eq (isNaN_larger hv hl)]
  split
  · exact isNaN_larger hv hl
  · exact hu

/-- NaN is not moved. -/
theorem clamp_of_isNaN {v l u : α} (hv : isNaN v) : clamp v l u = v := by
  simp [clamp, larger, smaller, hv]

theorem le_larger {v l : α} (hv : isNaN v = false) (hl : isNaN l = false) : le l (larger v l) := by
  rw [larger_eq hv]
  split
  · next h => exact le_of_lt h
  · exact le_refl hl

theorem clamp_le {v l u : α} (hv : isNaN v = false) (hl : isNaN l = false) (hu : isNaN u = false) :
    le (clamp v l u) u := by
  unfold clamp
  rw [smaller_eq (isNaN_larger hv hl)]
  split
  · next h => exact le_of_lt h
  · exact le_refl hu

theorem le_clamp {v l u : α} (hv : isNaN v = false) (hl : isNaN l = false) (hlu : le l u) :
    le l (clamp v l u) := by
  unfold clamp
  rw [smaller_eq (isNaN_larger hv hl)]
  split
  · exact le_larger hv hl
  · exact hlu

section Lawful

variable [LawfulScalar α] {v l u : α}

/-- A number stays where it is or is moved to one of the bounds. -/
theorem clamp_cases (v l u : α) : clamp v l u = v ∨
    clamp v l u = l ∧ (isNaN l ∨ lt l u) ∨ clamp v l u = u ∧ isNaN l = false := by
  cases hv : isNaN v with
  | true => exact Or.inl (clamp_of_isNaN hv)
  | false =>
    unfold clamp
    rw [larger_eq hv]
    by_cases hlow : lt l v
    · rw [if_pos hlow, smaller_eq hv]
      split
      · exact Or.inl rfl
      · exact Or.inr (Or.inr ⟨rfl, (LawfulScalar.isNaN_of_lt hlow).1⟩)
    · rw [if_neg hlow]
      cases hl : isNaN l with
      | true => exact Or.inr (Or.inl ⟨if_pos hl, Or.inl rfl⟩)
      | false =>
        rw [smaller_eq hl]
        split
        · next hup => exact Or.inr (Or.inl ⟨rfl, Or.inr hup⟩)
        · exact Or.inr (Or.inr ⟨rfl, rfl⟩)

/-- **A number that has been moved into an interval stays there**, even if the bounds are crossed
or NaN. -/
theorem clamp_clamp : clamp (clamp v l u) l u = clamp v l u := by
  rcases clamp_cases v l u with h | ⟨h, hl⟩ | ⟨h, hl⟩
  · rw [h, h]
  · rw [h]
    rcases hl with hl | hl
    · exact clamp_of_isNaN hl
    · have hnum : isNaN l = false := (LawfulScalar.isNaN_of_lt hl).1
      rw [clamp, larger_eq hnum, ite_self, smaller_eq hnum, if_pos hl]
  · rw [h]
    cases hu : isNaN u with
    | true => exact clamp_of_isNaN hu
    | false =>
      rw [clamp, larger_eq hu]
      split
      · rw [smaller_eq hu, ite_self]
      · next hlow => rw [smaller_eq hl, if_neg hlow]

/-- Between crossed bounds everything is moved to the upper one. -/
theorem clamp_of_crossed (hv : isNaN v = false) (hl : isNaN l = false) (h : lt u l) :
    clamp v l u = u := by
  unfold clamp
  rw [smaller_eq (isNaN_larger hv hl), if_neg]
  intro hlt
  exact LawfulScalar.not_le_of_lt h (LawfulScalar.le_trans (le_larger hv hl) (le_of_lt hlt))

/-- A number of the interval stays where it is, up to the sign of a zero. -/
theorem clamp_of_mem (hv : isNaN v = false) (hl : isNaN l = false) (hu : isNaN u = false)
    (h : le l v) (h' : le v u) : eq (clamp v l u) v := by
  have hlarger : eq (larger v l) v := by
    rw [larger_eq hv]
    split
    · exact eq_self hv
    · next hlt => exact LawfulScalar.le_antisymm h (le_of_not_lt hv hl hlt)
  unfold clamp
  rw [smaller_eq (isNaN_larger hv hl)]
  split
  · exact hlarger
  · next hlt =>
    have hul : le u (larger v l) := le_of_not_lt hu (isNaN_larger hv hl) hlt
    exact LawfulScalar.le_antisymm (LawfulScalar.le_trans hul (le_of_eq hlarger)) h'

end Lawful

end Scalar

end ProjectedNewton
