import ProjectedNewton.Decimal.Digits

/-!
# General number fields

A number is written with a given number of significant digits, without trailing zeros: with its
point in place when its first digit stands for at least `10 ^ (-4)` and is one of the significant
digits before the point, and with an exponent otherwise. A field is a text of a minimal width,
filled up with blanks on the right; it may keep a blank for the sign of numbers that have none.
-/

namespace ProjectedNewton.Decimal

/-- How a number is written. -/
structure GeneralField where
  /-- The number of significant digits. -/
  precision : Nat := 6
  /-- The least number of characters. -/
  width : Nat := 0
  /-- A number without a minus sign starts with a blank. -/
  signBlank : Bool := false

/-- The smallest exponent that is still written with the point in place. -/
def minPositional : Int := -4

/-- An exponent with its sign and at least two digits. -/
def exponentText (x : Int) : String :=
  let digits := Nat.toDigits 10 x.natAbs
  String.ofList ((if x < 0 then '-' else '+') :: List.replicate (2 - digits.length) '0' ++ digits)

/-- A fraction with `precision` significant digits. -/
def generalText (precision : Nat) (r : Ratio) : String :=
  let d := r.significant precision
  let x := d.exponent
  if minPositional ≤ x ∧ x < precision then d.positional
  else d.mantissa ++ "e" ++ exponentText x

/-- The text filled up with blanks on the right. -/
def padRight (width : Nat) (text : String) : String :=
  text ++ "".pushn ' ' (width - text.length)

namespace GeneralField

/-- The sign in front of a number. -/
def signText (field : GeneralField) (negative : Bool) : String :=
  if negative then "-" else if field.signBlank then " " else ""

/-- A double in its field. NaN has no sign. -/
def render (field : GeneralField) (x : Float) : String :=
  padRight field.width <| match Binary.ofFloat x with
    | .nan => field.signText false ++ "nan"
    | .infinite negative => field.signText negative ++ "inf"
    | .finite negative significand exponent =>
      field.signText negative ++ generalText field.precision (.ofBinary significand exponent)

end GeneralField

end ProjectedNewton.Decimal
