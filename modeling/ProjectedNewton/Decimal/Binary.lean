/-!
# Doubles as exact numbers

Fractions of natural numbers are scaled by powers and rounded exactly, a half going to the even
neighbour.

A double is NaN, an infinity, or exactly `± m * 2 ^ e`. `Binary.ofFloat` reads the three parts off
the bits, and `nearest?` goes back: it finds the double nearest to a fraction, an exact half going
to the even significand, and fails when that double would be infinite.
-/

namespace ProjectedNewton.Decimal

/-! ## Fractions -/

/-- The integer nearest to `num / den`, an exact half going to the even one. -/
def roundDiv (num den : Nat) : Nat :=
  let quotient := num / den
  let twice := 2 * (num % den)
  if den < twice || (twice == den && quotient % 2 == 1) then quotient + 1 else quotient

/-- The number of decimal digits of `n`, at least one. -/
def digitCount (n : Nat) : Nat := (Nat.toDigits 10 n).length

/-- The fraction `num / den`. -/
structure Ratio where
  num : Nat
  den : Nat

namespace Ratio

/-- `r * base ^ k`. -/
def scale (r : Ratio) (base : Nat) : Int → Ratio
  | .ofNat k => ⟨r.num * Nat.pow base k, r.den⟩
  | .negSucc k => ⟨r.num, r.den * Nat.pow base (k + 1)⟩

/-- The nearest integer. -/
def round (r : Ratio) : Nat := roundDiv r.num r.den

/-- The integer part. -/
def floor (r : Ratio) : Nat := r.num / r.den

/-- The test `r ≤ s`. -/
def isLE (r s : Ratio) : Bool := decide (r.num * s.den ≤ s.num * r.den)

/-- The larger of `guess` and `guess - 1` whose power of `base` is at most `r`. -/
def settle (r : Ratio) (base : Nat) (guess : Int) : Int :=
  if (scale ⟨1, 1⟩ base guess).isLE r then guess else guess - 1

/-- The exponent of the largest power of two that is at most `r`, for positive `r`. The sizes of
numerator and denominator leave two candidates. -/
def exponent2 (r : Ratio) : Int := r.settle 2 ((r.num.log2 : Int) - r.den.log2)

/-- The exponent of the largest power of ten that is at most `r`, for positive `r`. -/
def exponent10 (r : Ratio) : Int := r.settle 10 ((digitCount r.num : Int) - digitCount r.den)

end Ratio

/-! ## Doubles -/

/-- The number that a double stands for. -/
inductive Binary where
  | nan
  | infinite (negative : Bool)
  /-- The number `± significand * 2 ^ exponent`. -/
  | finite (negative : Bool) (significand : Nat) (exponent : Int)

namespace Binary

/-- The number of bits of the fraction, below the exponent field. -/
def fractionBits : Nat := 52

/-- The weight of the lowest bit of the exponent field, which is also the leading bit that the
fraction leaves out. -/
def fieldUnit : Nat := Nat.pow 2 fractionBits

/-- The weight of the sign bit. -/
def signUnit : Nat := Nat.pow 2 63

/-- The exponent of the smallest positive double. -/
def minExponent : Int := -1074

/-- The exponent field of infinities and NaN. -/
def topField : Nat := 2047

/-- The number that a double stands for. -/
def ofFloat (x : Float) : Binary :=
  let bits := x.toBits.toNat
  let negative := bits / signUnit == 1
  let field := bits % signUnit / fieldUnit
  let fraction := bits % fieldUnit
  if field = topField then if fraction = 0 then infinite negative else nan
  else if field = 0 then finite negative fraction minExponent
  else finite negative (fieldUnit + fraction) (minExponent + field - 1)

end Binary

/-- The fraction `significand * 2 ^ exponent`. -/
def Ratio.ofBinary (significand : Nat) (exponent : Int) : Ratio :=
  Ratio.scale ⟨significand, 1⟩ 2 exponent

/-- The double nearest to `r`, or nothing if `r` is too large. The significand, with its leading
bit, is added to the exponent field below its place, so that a carry out of the significand raises
the exponent. -/
def nearest? (r : Ratio) : Option Float :=
  if r.num = 0 then some 0.0
  else
    let exponent := max (r.exponent2 - Binary.fractionBits) Binary.minExponent
    let significand := (r.scale 2 (-exponent)).round
    let bits := (exponent - Binary.minExponent).toNat * Binary.fieldUnit + significand
    if bits < Binary.topField * Binary.fieldUnit then some (Float.ofBits bits.toUInt64)
    else none

end ProjectedNewton.Decimal
