import Mathlib
import ProjectedNewton.Proofs.Scalar.Lawful

/-!
# Doubles are lawful

The laws of `LawfulScalar` hold of doubles. A double is taken apart into sign, mantissa and
exponent (`parts`), and an operation computes on the parts and packs the result.

* The order is that of `rank`, which places the parts in the lexicographic order of three integers.
* NaN, zeros and infinities survive packing because each has one bit pattern; for the sum `0 + v`,
  whose result is `v` itself, packing has to restore the bits of `v` (`pack_unpack`).
-/

namespace ProjectedNewton.Double

open Float.Model Scalar

/-- Sign, mantissa and exponent of a double. -/
abbrev parts (a : Float) : UnpackedFloat := a.toModel.unpack

/-! ## Order -/

/-- The place of a number in the order of doubles. -/
def rank : UnpackedFloat → ℤ ×ₗ ℤ ×ₗ ℤ
  | .infinity .negative => toLex (-2, toLex (0, 0))
  | .finite .negative m e _ => toLex (-1, toLex (-e, -m))
  | .zero _ => toLex (0, toLex (0, 0))
  | .finite .positive m e _ => toLex (1, toLex (e, m))
  | .infinity .positive => toLex (2, toLex (0, 0))
  | .notANumber => toLex (0, toLex (0, 0))

theorem compare_sign (s t : UnpackedFloat.Sign) :
    compare s t = compare (s.apply 1) (t.apply 1) := by
  cases s <;> cases t <;> rfl

theorem compare_then_eq_lt {e e' : ℤ} {m m' : ℕ} :
    (compare e e').then (compare m m') = .lt ↔ e < e' ∨ e = e' ∧ m < m' := by
  rw [Ordering.then_eq_lt, Int.compare_eq_lt, Int.compare_eq_eq, Nat.compare_eq_lt]

theorem compare_then_eq_gt {e e' : ℤ} {m m' : ℕ} :
    (compare e e').then (compare m m') = .gt ↔ e' < e ∨ e = e' ∧ m' < m := by
  rw [Ordering.then_eq_gt, Int.compare_eq_gt, Int.compare_eq_eq, Nat.compare_eq_gt]

theorem parts_lt_iff {a b : UnpackedFloat} :
    a.lt b ↔ a.isNaN = false ∧ b.isNaN = false ∧ rank a < rank b := by
  rcases a with (_ | _) | _ | s | ⟨_ | _, m, e, hm⟩ <;>
    rcases b with (_ | _) | _ | t | ⟨_ | _, m', e', hm'⟩ <;>
    simp [UnpackedFloat.isNaN, UnpackedFloat.lt, UnpackedFloat.compare, rank,
      Prod.Lex.toLex_lt_toLex, compare_then_eq_lt, compare_then_eq_gt, compare_sign,
      UnpackedFloat.Sign.apply, Int.compare_eq_lt]

theorem parts_beq_iff {a b : UnpackedFloat} :
    a.beq b ↔ a.isNaN = false ∧ b.isNaN = false ∧ rank a = rank b := by
  rcases a with (_ | _) | _ | s | ⟨_ | _, m, e, hm⟩ <;>
    rcases b with (_ | _) | _ | t | ⟨_ | _, m', e', hm'⟩ <;>
    simp [UnpackedFloat.isNaN, UnpackedFloat.beq, UnpackedFloat.compare, rank, compare_sign,
      UnpackedFloat.Sign.apply]

theorem isNaN_eq (a : Float) : isNaN a = (parts a).isNaN := by
  show (!(parts a).beq (parts a)) = (parts a).isNaN
  cases h : (parts a).isNaN with
  | false => simp [parts_beq_iff, h]
  | true =>
    rw [Bool.not_eq_true', Bool.eq_false_iff, ne_eq, parts_beq_iff, h]
    simp

theorem lt_iff {a b : Float} :
    lt a b ↔ isNaN a = false ∧ isNaN b = false ∧ rank (parts a) < rank (parts b) := by
  rw [isNaN_eq, isNaN_eq, ← parts_lt_iff]
  show decide (decide ((parts a).lt (parts b) = true) = true) = true ↔ _
  simp

theorem eq_iff {a b : Float} :
    eq a b ↔ isNaN a = false ∧ isNaN b = false ∧ rank (parts a) = rank (parts b) := by
  rw [isNaN_eq, isNaN_eq, ← parts_beq_iff]
  rfl

theorem le_iff {a b : Float} :
    le a b ↔ isNaN a = false ∧ isNaN b = false ∧ rank (parts a) ≤ rank (parts b) := by
  rw [Scalar.le, Bool.or_eq_true, lt_iff, eq_iff, le_iff_lt_or_eq]
  tauto

theorem parts_le (a b : UnpackedFloat) : a.le b = (a.lt b || a.beq b) := by
  unfold UnpackedFloat.le UnpackedFloat.lt UnpackedFloat.beq
  cases a.compare b with
  | none => rfl
  | some o => cases o <;> rfl

/-- The order of doubles is the one derived from the two tests. -/
theorem float_le_iff {a b : Float} : a ≤ b ↔ le a b := by
  show decide ((parts a).le (parts b) = true) = true
    ↔ (decide (decide ((parts a).lt (parts b) = true) = true) || (parts a).beq (parts b)) = true
  rw [parts_le]
  simp

/-! ## Bit patterns -/

section Pack

open UnpackedFloat

theorem toBitVec_ofBitVec (b : BitVec 1) : (Sign.ofBitVec b).toBitVec = b := by
  rcases BitVec.eq_zero_or_eq_one b with rfl | rfl <;> rfl

/-- A bit pattern is put together from its three fields. -/
theorem packComponents_fields (b : BitVec Format.binary64.numBits) :
    packComponents Format.binary64 (Sign.ofBitVec (unpackSign b)) (unpackExponent b)
      (unpackMantissa b) = b := by
  unfold packComponents
  rw [toBitVec_ofBitVec]
  refine BitVec.eq_of_getLsbD_eq fun i hi => ?_
  simp only [unpackSign, unpackExponent, unpackMantissa, BitVec.getLsbD_append,
    BitVec.getLsbD_cast, BitVec.getLsbD_extractLsb, Format.binary64] at hi ⊢
  split_ifs <;> simp <;> grind

/-- The mantissa of a normal number with its leading bit. -/
theorem toNat_leading (m : BitVec 52) : (1#1 ++ m).toNat = 2 ^ 52 + m.toNat := by
  rw [BitVec.toNat_append, BitVec.toNat_ofNat, Nat.shiftLeft_eq]
  exact (Nat.two_pow_add_eq_or_of_lt m.isLt 1).symm

theorem log2_leading (m : BitVec 52) : (1#1 ++ m).toNat.log2 = 52 := by
  have hm := m.isLt
  rw [toNat_leading]
  exact (Nat.log2_eq_iff (by omega)).mpr ⟨by omega, by omega⟩

theorem ofNat_leading (m : BitVec 52) : BitVec.ofNat 52 (1#1 ++ m).toNat = m := by
  have hm := m.isLt
  refine BitVec.eq_of_toNat_eq ?_
  rw [toNat_leading, BitVec.toNat_ofNat]
  omega

/-- Packing the parts of a bit pattern restores it. -/
theorem pack_unpack_bits {b : BitVec Format.binary64.numBits} (h : Format.binary64.Valid b) :
    UnpackedFloat.pack Format.binary64 (UnpackedFloat.unpack Format.binary64 b) = b := by
  have hfields := packComponents_fields b
  have he := (unpackExponent b).isLt
  have hm := (unpackMantissa b).isLt
  unfold UnpackedFloat.unpack
  dsimp only
  split_ifs with htop hzero hbottom hzero
  · rw [hzero, htop] at hfields
    exact hfields
  · exact (h.eq_packedNaN htop hzero).symm
  · rw [hbottom, hzero] at hfields
    exact hfields
  · -- subnormal: too few bits for a leading one
    have hm0 : (unpackMantissa b).toNat ≠ 0 := fun h0 => hzero (BitVec.eq_of_toNat_eq h0)
    have hlog : (unpackMantissa b).toNat.log2 < 52 := (Nat.log2_lt hm0).mpr hm
    rw [hbottom] at hfields
    rw [UnpackedFloat.pack, if_neg, if_neg]
    · simpa using hfields
    · simp only [Format.mantissaBits]
      omega
    · rw [hbottom]
      simp [Format.exponentBias]
  · -- normal: the leading bit is added by unpacking and dropped by packing
    have hne : (unpackExponent b).toNat ≠ 2 ^ 11 - 1 :=
      fun h0 => htop (BitVec.eq_of_toNat_eq h0)
    rw [UnpackedFloat.pack, Int.add_assoc, Int.sub_add_cancel, Int.toNat_natCast, if_neg, if_pos]
    · rw [ofNat_leading, BitVec.ofNat_toNat, BitVec.setWidth_eq]
      exact hfields
    · rw [log2_leading]
      rfl
    · simp only at he ⊢
      omega

theorem toNat_unpackExponent (b : BitVec Format.binary64.numBits) :
    (unpackExponent b).toNat = b.toNat / 2 ^ 52 % 2 ^ 11 := by
  simp [unpackExponent, Format.binary64, BitVec.extractLsb_toNat, Nat.shiftRight_eq_div_pow]

theorem toNat_unpackSign (b : BitVec Format.binary64.numBits) :
    (unpackSign b).toNat = b.toNat / 2 ^ 63 % 2 := by
  simp [unpackSign, Format.binary64, BitVec.extractLsb_toNat, Nat.shiftRight_eq_div_pow]

theorem parts_ofBits {u : UInt64} (h : Format.binary64.Valid u.toBitVec) :
    parts (Float.ofBits u) = UnpackedFloat.unpack Format.binary64 u.toBitVec :=
  congrArg (UnpackedFloat.unpack Format.binary64) (pack_unpack_bits h)

/-- A bit pattern below that of infinity stands for a number that is at least zero. -/
theorem zero_le_ofBits {u : UInt64} (h : u.toNat < 2047 * 2 ^ 52) : le 0 (Float.ofBits u) := by
  have htop : @unpackExponent Format.binary64 u.toBitVec ≠ -1#_ := by
    intro heq
    have htoNat := congrArg BitVec.toNat heq
    rw [toNat_unpackExponent] at htoNat
    have hones : (-1#11).toNat = 2047 := rfl
    change u.toNat / 2 ^ 52 % 2 ^ 11 = (-1#11).toNat at htoNat
    omega
  have hsign : @unpackSign Format.binary64 u.toBitVec = 0#1 := by
    refine BitVec.eq_of_toNat_eq ?_
    rw [toNat_unpackSign]
    change u.toNat / 2 ^ 63 % 2 = 0
    omega
  have hparts := parts_ofBits ⟨fun heq => absurd heq htop⟩
  rw [← float_le_iff]
  show decide ((UnpackedFloat.zero .positive).le (parts (Float.ofBits u)) = true) = true
  rw [hparts, decide_eq_true_iff]
  unfold UnpackedFloat.unpack
  dsimp only
  rw [hsign, if_neg htop]
  split_ifs
  · rfl
  · rfl
  · rfl

theorem zero_le_ofBits_toUInt64 {b : ℕ} (h : b < 2047 * 2 ^ 52) :
    le 0 (Float.ofBits b.toUInt64) := by
  refine zero_le_ofBits (Nat.lt_of_le_of_lt ?_ h)
  rw [UInt64.toNat_ofNat']
  exact Nat.mod_le b _

theorem pack_unpack (f : Float.Model) : Float.Model.pack f.unpack = f := by
  obtain ⟨bits, hvalid⟩ := f
  simp only [Float.Model.pack, Float.Model.unpack, pack_unpack_bits hvalid]

end Pack

/-! ## Arithmetic -/

theorem parts_add (a b : Float) :
    parts (a + b) = (pack (UnpackedFloat.add Format.binary64 (parts a) (parts b))).unpack := rfl

theorem parts_sub (a b : Float) :
    parts (a - b) = (pack (UnpackedFloat.sub Format.binary64 (parts a) (parts b))).unpack := rfl

theorem parts_mul (a b : Float) :
    parts (a * b) = (pack (UnpackedFloat.mul Format.binary64 (parts a) (parts b))).unpack := rfl

theorem isNaN_iff {a : Float} : isNaN a ↔ parts a = .notANumber := by
  rw [isNaN_eq]
  cases parts a <;> simp [UnpackedFloat.isNaN]

theorem isNaN_of_parts {a : Float} (h : parts a = (pack .notANumber).unpack) : isNaN a := by
  rw [isNaN_iff, h]
  rfl

/-- An operation on parts that absorbs NaN on both sides gives NaN for a NaN. -/
theorem isNaN_of_absorbs {op : UnpackedFloat → UnpackedFloat → UnpackedFloat}
    (hleft : ∀ v, op .notANumber v = .notANumber) (hright : ∀ u, op u .notANumber = .notANumber)
    {a b c : Float} (hc : parts c = (pack (op (parts a) (parts b))).unpack)
    (h : isNaN a ∨ isNaN b) : isNaN c := by
  refine isNaN_of_parts ?_
  rw [hc]
  rcases h with h | h
  · rw [isNaN_iff.mp h, hleft]
  · rw [isNaN_iff.mp h, hright]

theorem isNaN_add {a b : Float} (h : isNaN a ∨ isNaN b) : isNaN (a + b) := by
  refine isNaN_of_absorbs ?_ ?_ (parts_add a b) h
  · intro v
    simp [UnpackedFloat.add]
  · intro u
    cases u <;> simp [UnpackedFloat.add]

theorem isNaN_sub {a b : Float} (h : isNaN a ∨ isNaN b) : isNaN (a - b) := by
  refine isNaN_of_absorbs ?_ ?_ (parts_sub a b) h
  · intro v
    simp [UnpackedFloat.sub]
  · intro u
    cases u <;> simp [UnpackedFloat.sub]

theorem isNaN_mul {a b : Float} (h : isNaN a ∨ isNaN b) : isNaN (a * b) := by
  refine isNaN_of_absorbs ?_ ?_ (parts_mul a b) h
  · intro v
    simp [UnpackedFloat.mul]
  · intro u
    cases u <;> simp [UnpackedFloat.mul]

theorem unpack_pack_zero (s : UnpackedFloat.Sign) : (pack (.zero s)).unpack = .zero s := by
  cases s <;> rfl

/-- Zero times a finite double is a zero: an infinity would differ from itself by NaN. -/
theorem parts_zero_mul {a : Float} (h : Scalar.isFinite a) : ∃ s, parts (0 * a) = .zero s := by
  have hsub : ¬isNaN (a - a) := by
    simpa [Scalar.isFinite] using h
  have hzero : parts 0 = .zero .positive := rfl
  rw [parts_mul, hzero]
  cases ha : parts a with
  | notANumber => exact absurd (isNaN_sub (Or.inl (isNaN_iff.mpr ha))) hsub
  | infinity s =>
    refine absurd (isNaN_of_parts ?_) hsub
    rw [parts_sub, ha]
    cases s <;> rfl
  | zero s => exact ⟨_, unpack_pack_zero _⟩
  | finite s m e hm => exact ⟨_, unpack_pack_zero _⟩

/-- Adding a zero changes at most the sign of a zero. -/
theorem parts_zero_add {z v : Float} {s : UnpackedFloat.Sign} (hz : parts z = .zero s)
    (hv : isNaN v = false) :
    parts (z + v) = parts v ∨ ∃ t t', parts (z + v) = .zero t ∧ parts v = .zero t' := by
  rw [parts_add, hz]
  cases hp : parts v with
  | notANumber => rw [isNaN_iff.mpr hp] at hv; cases hv
  | infinity t => exact Or.inl (by cases s <;> cases t <;> rfl)
  | zero t => exact Or.inr (by cases s <;> cases t <;> exact ⟨_, _, unpack_pack_zero _, rfl⟩)
  | finite t m e hm =>
    left
    show (pack (.finite t m e hm)).unpack = _
    rw [← hp, pack_unpack]

theorem zero_add_eq {z v : Float} {s : UnpackedFloat.Sign} (hz : parts z = .zero s)
    (hv : isNaN v = false) : eq (z + v) v := by
  rw [eq_iff, isNaN_eq (z + v)]
  rcases parts_zero_add hz hv with h | ⟨t, t', h, h'⟩
  · rw [h, ← isNaN_eq]
    exact ⟨hv, hv, rfl⟩
  · rw [h, h']
    exact ⟨rfl, hv, rfl⟩

instance : LawfulScalar Float where
  isNaN_of_lt h := ⟨(lt_iff.mp h).1, (lt_iff.mp h).2.1⟩
  isNaN_of_eq h := ⟨(eq_iff.mp h).1, (eq_iff.mp h).2.1⟩
  eq_symm h := by
    obtain ⟨ha, hb, hr⟩ := eq_iff.mp h
    exact eq_iff.mpr ⟨hb, ha, hr.symm⟩
  le_total {a b} ha hb := by
    rcases le_total (rank (parts a)) (rank (parts b)) with h | h
    · exact Or.inl (le_iff.mpr ⟨ha, hb, h⟩)
    · exact Or.inr (le_iff.mpr ⟨hb, ha, h⟩)
  le_trans h h' := by
    obtain ⟨ha, _, hr⟩ := le_iff.mp h
    obtain ⟨_, hc, hr'⟩ := le_iff.mp h'
    exact le_iff.mpr ⟨ha, hc, hr.trans hr'⟩
  le_antisymm h h' := by
    obtain ⟨ha, hb, hr⟩ := le_iff.mp h
    exact eq_iff.mpr ⟨ha, hb, hr.antisymm (le_iff.mp h').2.2⟩
  not_le_of_lt h h' := (lt_iff.mp h).2.2.not_ge (le_iff.mp h').2.2
  isNaN_add := isNaN_add
  isNaN_sub := isNaN_sub
  isNaN_mul := isNaN_mul
  zero_mul_add ha hv := by
    obtain ⟨s, hs⟩ := parts_zero_mul ha
    exact zero_add_eq hs hv
  isFinite_of_mem_stepLengths {a} ha := by
    have hall : (stepLengths : List Float).all Scalar.isFinite := by decide +kernel
    exact List.all_eq_true.mp hall a ha

end ProjectedNewton.Double
