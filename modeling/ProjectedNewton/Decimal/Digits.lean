import ProjectedNewton.Decimal.Binary

/-!
# Decimal digits

A decimal is a natural number of units `10 ^ unit`. A fraction is rounded to a decimal with a given
number of significant digits (`Ratio.significant`) or of digits after the point (`Ratio.places`),
and a decimal is taken apart into the digits before and after the point, either where the point
belongs or behind the first digit. Digits after the point are given without trailing zeros.
-/

namespace ProjectedNewton.Decimal

/-- The decimal `value * 10 ^ unit`. -/
structure Digits where
  value : Nat
  unit : Int

/-- A positive fraction rounded to `count` significant digits, and zero to zero. -/
def Ratio.significant (r : Ratio) (count : Nat) : Digits :=
  if r.num = 0 then ⟨0, 0⟩
  else
    let unit := r.exponent10 + 1 - count
    ⟨(r.scale 10 (-unit)).round, unit⟩

/-- A fraction rounded to `count` digits after the point. -/
def Ratio.places (r : Ratio) (count : Nat) : Digits := ⟨(r.scale 10 count).round, -count⟩

/-- The digits without the zeros at the end. -/
def trimZeros (digits : List Char) : List Char :=
  (digits.reverse.dropWhile (· == '0')).reverse

namespace Digits

/-- The decimal as a fraction. -/
def ratio (d : Digits) : Ratio := Ratio.scale ⟨d.value, 1⟩ 10 d.unit

/-- The power of ten for which the first digit stands. -/
def exponent (d : Digits) : Int := d.unit + digitCount d.value - 1

/-! ## With the point in its place -/

def integerPart (d : Digits) : Nat := d.ratio.floor

/-- The digits after the point. -/
def fractionPart (d : Digits) : List Char :=
  match d.unit with
  | .ofNat _ => []
  | .negSucc k =>
    let digits := Nat.toDigits 10 (d.value % Nat.pow 10 (k + 1))
    trimZeros (List.replicate (k + 1 - digits.length) '0' ++ digits)

/-! ## With the point behind the first digit -/

/-- The first digit. -/
def leadingDigit (d : Digits) : List Char := (Nat.toDigits 10 d.value).take 1

/-- The digits after the first one. -/
def mantissaFraction (d : Digits) : List Char := trimZeros ((Nat.toDigits 10 d.value).drop 1)

/-! ## Text -/

/-- Digits before and after a point, which is left out if nothing follows it. -/
def joinPoint (before after : List Char) : String :=
  String.ofList (if after.isEmpty then before else before ++ '.' :: after)

/-- The decimal with its point in place, such as `12.5`. -/
def positional (d : Digits) : String :=
  joinPoint (Nat.toDigits 10 d.integerPart) d.fractionPart

/-- The decimal with its point behind the first digit, and no exponent: `1.25` for `12.5`. -/
def mantissa (d : Digits) : String := joinPoint d.leadingDigit d.mantissaFraction

end Digits

end ProjectedNewton.Decimal
