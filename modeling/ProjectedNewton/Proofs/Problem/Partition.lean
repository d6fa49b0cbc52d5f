import Mathlib.Data.List.Nodup
import ProjectedNewton.Proofs.Run.Step

/-!
# Free and clamped coordinates

`Problem.split p x` lists every coordinate once, in increasing order, as free or as clamped. The
Newton direction at `x` is zero on the clamped coordinates, so that only the free ones move.

* `Partition.IsSplit` says what is true of every split, `Problem.isSplit_split` proves it.
* `Problem.mem_free_iff` and `Problem.mem_clamped_iff` say which coordinates are listed where.
* `Vec.spread_get` and `Vec.spread_of_not_mem` give the entries of a vector that is spread over
  some coordinates.
-/

namespace ProjectedNewton

variable {α : Type} {n : Nat}

/-- Every coordinate is either free or clamped, and both kinds are listed in increasing order. -/
structure Partition.IsSplit (part : Partition n) : Prop where
  free_sorted : part.free.Pairwise (· < ·)
  clamped_sorted : part.clamped.Pairwise (· < ·)
  disjoint : ∀ i ∈ part.free, i ∉ part.clamped
  exhaustive : ∀ i, i ∈ part.free ∨ i ∈ part.clamped

theorem Partition.IsSplit.nodup_free {part : Partition n} (h : part.IsSplit) : part.free.Nodup :=
  h.free_sorted.imp Fin.ne_of_lt

theorem Partition.IsSplit.nodup_clamped {part : Partition n} (h : part.IsSplit) :
    part.clamped.Nodup :=
  h.clamped_sorted.imp Fin.ne_of_lt

variable [Scalar α]

/-! ## The split at a point -/

namespace Problem

variable {p : Problem α n} {x : Vec α n} {i : Fin n}

theorem mem_free_iff : i ∈ (p.split x).free ↔ p.isClamped x (p.gradient x) i = false := by
  simp [split, partition]

theorem mem_clamped_iff : i ∈ (p.split x).clamped ↔ p.isClamped x (p.gradient x) i := by
  simp [split, partition]

/-- **The split at a point lists every coordinate once.** -/
theorem isSplit_split (p : Problem α n) (x : Vec α n) : (p.split x).IsSplit where
  free_sorted := (List.pairwise_lt_finRange n).filter _
  clamped_sorted := (List.pairwise_lt_finRange n).filter _
  disjoint := by
    intro i hfree hclamped
    rw [mem_free_iff] at hfree
    rw [mem_clamped_iff, hfree] at hclamped
    exact Bool.false_ne_true hclamped
  exhaustive := by
    intro i
    rw [mem_free_iff, mem_clamped_iff]
    cases p.isClamped x (p.gradient x) i with
    | false => exact Or.inl rfl
    | true => exact Or.inr rfl

/-- If no coordinate is clamped, all are free. -/
theorem free_of_unclamped (h : (p.split x).clamped = []) :
    (p.split x).free = List.finRange n := by
  refine List.filter_eq_self.mpr ?_
  intro i _
  rw [Bool.not_eq_true', ← mem_free_iff]
  refine ((p.isSplit_split x).exhaustive i).resolve_right ?_
  rw [h]
  exact List.not_mem_nil

/-- A clamped coordinate sits on one of its bounds. -/
theorem onBound_of_isClamped {g : Vec α n} (h : p.isClamped x g i) :
    Scalar.eq (x i) (p.lower i) ∨ Scalar.eq (x i) (p.upper i) := by
  unfold isClamped at h
  rw [Bool.or_eq_true, Bool.and_eq_true, Bool.and_eq_true] at h
  exact h.imp And.left And.left

end Problem

/-! ## Vectors on some of the coordinates -/

/-- Every position of a list without repetitions is found. -/
theorem finIdxOf?_get {indices : List (Fin n)} (h : indices.Nodup) (k : Fin indices.length) :
    indices.finIdxOf? (indices.get k) = some k := by
  refine List.finIdxOf?_eq_some_iff.mpr ⟨rfl, ?_⟩
  intro j hj heq
  exact absurd (h.get_inj_iff.mp heq) (Fin.ne_of_lt hj)

namespace Vec

variable {indices : List (Fin n)} {v : Vec α indices.length} {i : Fin n}

theorem spread_of_not_mem (h : i ∉ indices) : spread indices v i = 0 := by
  have hnone : indices.finIdxOf? i = none := List.finIdxOf?_eq_none_iff.mpr h
  unfold spread
  rw [entry_ofFn, hnone]

theorem spread_get (h : indices.Nodup) (k : Fin indices.length) :
    spread indices v (indices.get k) = v k := by
  unfold spread
  rw [entry_ofFn, finIdxOf?_get h]

end Vec

/-- The Newton direction is zero on the clamped coordinates. -/
theorem Problem.directionAt_of_clamped {p : Problem α n} {x : Vec α n} {i : Fin n}
    {F : Factorization α (p.split x).free.length} (h : i ∈ (p.split x).clamped) :
    p.directionAt x F i = 0 :=
  Vec.spread_of_not_mem fun hfree => (p.isSplit_split x).disjoint i hfree h

/-- Where no coordinate is free, there is nothing that could fail to be factorized. -/
theorem Problem.exists_factorizeAt?_of_full {p : Problem α n} {x : Vec α n} (s : Settings α)
    (h : (p.split x).free = []) : ∃ F, p.factorizeAt? s x = some F := by
  unfold factorizeAt? factorizeFree? Problem.freeHessian
  rw [h]
  exact ⟨_, rfl⟩

/-- A factorization that fails has at least one coordinate. -/
theorem Problem.free_ne_nil_of_singular {p : Problem α n} {s : Settings α} {x : Vec α n}
    (hF : p.factorizeAt? s x = none) : (p.split x).free ≠ [] := by
  intro hfull
  obtain ⟨F, hF'⟩ := exists_factorizeAt?_of_full s hfull
  rw [hF] at hF'
  cases hF'

end ProjectedNewton
