import Mathlib
import ProjectedNewton.Decimal.Numeral

/-!
# Which integers are too large for a double

The largest double is `2 ^ 1024 - 2 ^ 971`, and the next one would be `2 ^ 1024`. Half-way between
them lies `2 ^ 1024 - 2 ^ 970`. A smaller integer is rounded to a double; this one is not, because
it goes to the even neighbour, which is the one that is missing.

* `roundDiv_lt_iff` says when a fraction that is rounded to an integer stays below an even one.
* `nearest?_natCast_isSome_iff_bits` is the test of `nearest?` for a natural number.
* `nearestInt?_isSome_iff` is the result.
-/

namespace ProjectedNewton.Decimal

/-! ## Rounding to an integer -/

theorem le_roundDiv (num den : ℕ) : num / den ≤ roundDiv num den := by
  unfold roundDiv
  dsimp only
  split
  · exact Nat.le_succ _
  · exact le_rfl

theorem roundDiv_le (num den : ℕ) : roundDiv num den ≤ num / den + 1 := by
  unfold roundDiv
  dsimp only
  split
  · exact le_rfl
  · exact Nat.le_succ _

theorem roundDiv_one (num : ℕ) : roundDiv num 1 = num := by
  unfold roundDiv
  simp [Nat.mod_one]

/-- From an odd quotient on, a fraction goes up in the middle already. -/
theorem roundDiv_of_odd {num den : ℕ} (h : num / den % 2 = 1) :
    roundDiv num den = if den ≤ 2 * (num % den) then num / den + 1 else num / den := by
  unfold roundDiv
  dsimp only
  rw [h]
  refine if_congr ?_ rfl rfl
  rw [le_iff_lt_or_eq, eq_comm (a := den)]
  simp

/-- The nearest integer is below an even one exactly if the fraction is below the middle between
that and the integer before. -/
theorem roundDiv_lt_iff {num den k : ℕ} (hden : 0 < den) :
    roundDiv num den < 2 * (k + 1) ↔ 2 * num < (4 * k + 3) * den := by
  have hdiv := Nat.div_add_mod num den
  have hmod := Nat.mod_lt num hden
  have hlow := le_roundDiv num den
  have hup := roundDiv_le num den
  have hodd := @roundDiv_of_odd num den
  generalize num / den = q at hdiv hlow hup hodd
  generalize num % den = r at hdiv hmod hodd
  rcases Nat.lt_trichotomy q (2 * k + 1) with hq | hq | hq
  · have hbelow : den * (q + 1) ≤ den * (2 * k + 1) := Nat.mul_le_mul_left den hq
    refine iff_of_true (by omega) ?_
    nlinarith
  · -- Just below the even integer the quotient is odd.
    subst hq
    rw [hodd (by omega)]
    split
    · next hhalf =>
      refine iff_of_false (by omega) ?_
      nlinarith
    · next hhalf =>
      refine iff_of_true (by omega) ?_
      nlinarith
  · have habove : den * (2 * k + 2) ≤ den * q := Nat.mul_le_mul_left den hq
    refine iff_of_false (by omega) ?_
    nlinarith

/-! ## The bits of the nearest double -/

variable {m : ℕ}

/-- The largest power of two that is at most `m` is read off the length of `m`. -/
theorem exponent2_natCast (hm : m ≠ 0) : (⟨m, 1⟩ : Ratio).exponent2 = m.log2 := by
  have hpower : Nat.pow 2 m.log2 ≤ m := Nat.log2_self_le hm
  have hone : Nat.log2 1 = 0 := by decide
  unfold Ratio.exponent2 Ratio.settle
  dsimp only
  rw [hone, Nat.cast_zero, sub_zero]
  refine if_pos (decide_eq_true ?_)
  show 1 * Nat.pow 2 m.log2 * 1 ≤ m * 1
  omega

/-- A short integer is the significand as it is. -/
theorem significand_of_le (h : m.log2 ≤ 52) :
    ((⟨m, 1⟩ : Ratio).scale 2 (-((m.log2 : ℤ) - 52))).round = m * 2 ^ (52 - m.log2) := by
  obtain ⟨k, hk⟩ := Nat.exists_eq_add_of_le h
  have hshift : -((m.log2 : ℤ) - 52) = Int.ofNat k := by
    rw [Int.ofNat_eq_natCast]
    omega
  have hsub : 52 - m.log2 = k := by omega
  rw [hshift, hsub]
  exact roundDiv_one _

/-- From a long one, the last bits are rounded off. -/
theorem significand_of_lt (h : 52 < m.log2) :
    ((⟨m, 1⟩ : Ratio).scale 2 (-((m.log2 : ℤ) - 52))).round
      = roundDiv m (2 ^ (m.log2 - 52)) := by
  obtain ⟨k, hk⟩ := Nat.exists_eq_add_of_lt h
  have hshift : -((m.log2 : ℤ) - 52) = Int.negSucc k := by
    rw [Int.negSucc_eq]
    omega
  have hsub : m.log2 - 52 = k + 1 := by omega
  rw [hshift, hsub]
  show roundDiv m (1 * Nat.pow 2 (k + 1)) = _
  rw [one_mul]
  rfl

/-- The quotient that is rounded has 53 bits. -/
theorem quotient_bounds (hm : m ≠ 0) (h : 52 < m.log2) :
    2 ^ 52 ≤ m / 2 ^ (m.log2 - 52) ∧ m / 2 ^ (m.log2 - 52) < 2 ^ 53 := by
  have hpos : 0 < 2 ^ (m.log2 - 52) := Nat.two_pow_pos _
  have hlow : 2 ^ 52 * 2 ^ (m.log2 - 52) ≤ m := by
    rw [← pow_add, Nat.add_sub_cancel' h.le]
    exact Nat.log2_self_le hm
  have hup : m < 2 ^ 53 * 2 ^ (m.log2 - 52) := by
    have hlength : 53 + (m.log2 - 52) = m.log2 + 1 := by omega
    rw [← pow_add, hlength]
    exact Nat.lt_log2_self
  exact ⟨(Nat.le_div_iff_mul_le hpos).mpr hlow, (Nat.div_lt_iff_lt_mul hpos).mpr hup⟩

/-- The bits that are put together are those of a double, and not of an infinity. -/
theorem nearest?_natCast_isSome_iff_bits (hm : m ≠ 0) : (nearest? ⟨m, 1⟩).isSome ↔
    (m.log2 + 1022) * 2 ^ 52 + ((⟨m, 1⟩ : Ratio).scale 2 (-((m.log2 : ℤ) - 52))).round
      < 2047 * 2 ^ 52 := by
  have hexponent : max ((⟨m, 1⟩ : Ratio).exponent2 - Binary.fractionBits) Binary.minExponent
      = (m.log2 : ℤ) - 52 := by
    rw [exponent2_natCast hm]
    refine max_eq_left ?_
    show (-1074 : ℤ) ≤ (m.log2 : ℤ) - 52
    omega
  have hfield : ((m.log2 : ℤ) - 52 - Binary.minExponent).toNat = m.log2 + 1022 := by
    show ((m.log2 : ℤ) - 52 - -1074).toNat = m.log2 + 1022
    omega
  unfold nearest?
  dsimp only
  rw [if_neg hm, hexponent, hfield]
  show (if (m.log2 + 1022) * 2 ^ 52 + _ < 2047 * 2 ^ 52 then _ else none).isSome ↔ _
  split
  · next h => exact iff_of_true rfl h
  · next h => exact iff_of_false Bool.false_ne_true h

/-- When a significand is not carried over to the next binade. -/
theorem roundDiv_pow_lt_iff (j : ℕ) :
    roundDiv m (2 ^ (j + 1)) < 2 ^ 53 ↔ m < (2 ^ 54 - 1) * 2 ^ j := by
  have hcarry := @roundDiv_lt_iff m (2 ^ (j + 1)) (2 ^ 52 - 1) (Nat.two_pow_pos _)
  rw [pow_succ' 2 j, mul_left_comm, Nat.mul_lt_mul_left two_pos] at hcarry
  rw [pow_succ' 2 j]
  exact hcarry

/-- **The naturals that are nearest to a double.** -/
theorem nearest?_natCast_isSome_iff : (nearest? ⟨m, 1⟩).isSome ↔ m < (2 ^ 54 - 1) * 2 ^ 970 := by
  by_cases hm : m = 0
  · subst hm
    exact iff_of_true rfl (by positivity)
  rw [nearest?_natCast_isSome_iff_bits hm]
  have hup : m < 2 ^ (m.log2 + 1) := Nat.lt_log2_self
  rcases Nat.lt_trichotomy m.log2 1023 with hlog | hlog | hlog
  · have hround : ((⟨m, 1⟩ : Ratio).scale 2 (-((m.log2 : ℤ) - 52))).round ≤ 2 ^ 53 := by
      rcases Nat.lt_or_ge 52 m.log2 with h | h
      · have hquotient := (quotient_bounds hm h).2
        have hadd := roundDiv_le m (2 ^ (m.log2 - 52))
        rw [significand_of_lt h]
        omega
      · have hlength : m.log2 + 1 + (52 - m.log2) = 53 := by omega
        rw [significand_of_le h, ← hlength, pow_add]
        exact Nat.mul_le_mul_right _ hup.le
    refine iff_of_true (by omega) ?_
    calc m < 2 ^ (m.log2 + 1) := hup
      _ ≤ 2 ^ (53 + 970) := pow_le_pow_right₀ one_le_two (by omega)
      _ = 2 ^ 53 * 2 ^ 970 := pow_add 2 53 970
      _ ≤ (2 ^ 54 - 1) * 2 ^ 970 := Nat.mul_le_mul_right _ (by decide)
  · -- In the last binade of all, a carry leads beyond the doubles.
    have hshift : m.log2 - 52 = 970 + 1 := by omega
    rw [significand_of_lt (by omega), ← roundDiv_pow_lt_iff, hshift, hlog]
    generalize roundDiv m (2 ^ (970 + 1)) = significand
    omega
  · have hlong : 52 < m.log2 := by omega
    have hquotient := (quotient_bounds hm hlong).1
    have hround := le_roundDiv m (2 ^ (m.log2 - 52))
    rw [significand_of_lt hlong]
    refine iff_of_false (by omega) (not_lt.mpr ?_)
    calc (2 ^ 54 - 1) * 2 ^ 970 ≤ 2 ^ 54 * 2 ^ 970 := Nat.mul_le_mul_right _ (by decide)
      _ = 2 ^ (54 + 970) := (pow_add 2 54 970).symm
      _ ≤ 2 ^ m.log2 := pow_le_pow_right₀ one_le_two (by omega)
      _ ≤ m := Nat.log2_self_le hm

/-- **The integers that are nearest to a double.** -/
theorem nearestInt?_isSome_iff {k : ℤ} :
    (nearestInt? k).isSome ↔ k.natAbs < 2 ^ 1024 - 2 ^ 970 := by
  have hbound : 2 ^ 1024 - 2 ^ 970 = (2 ^ 54 - 1) * 2 ^ 970 := by
    rw [Nat.sub_mul, one_mul, ← pow_add]
  rw [hbound, ← nearest?_natCast_isSome_iff]
  unfold nearestInt?
  cases nearest? ⟨k.natAbs, 1⟩ with
  | none => rfl
  | some x => rfl

end ProjectedNewton.Decimal
