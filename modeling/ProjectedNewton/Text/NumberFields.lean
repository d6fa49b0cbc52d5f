import ProjectedNewton.Decimal.General
import ProjectedNewton.Decimal.Shortest

/-!
# Numbers in fields of one width

Several doubles are written in fields of one width, and in one style: with exponents if the nonzero
finite numbers are large, small, or far apart, and with the point in its place otherwise. The point
itself is always written.

Every number asks for the digits of its shortest decimal, or for as many as are allowed if that has
too many after the point. With the point in its place, the points stand below each other, and every
number has the digits it asks for, filled up with blanks. With exponents, every number is rounded to
the largest number of digits that one of them asks for.
-/

namespace ProjectedNewton.Text

open Decimal

/-! ## Rules -/

/-- The largest number of digits after the point. -/
def maxPlaces : Nat := 6

/-- Whether exponents are used: if an absolute value is at least `1e8` or below `1e-4`, or the
largest is more than a thousand times the smallest. Zeros, infinities and NaN do not count. -/
def usesExponent (numbers : List Float) : Bool :=
  let sizes := (numbers.filter fun x => x.isFinite && x != 0).map Float.abs
  match sizes with
  | [] => false
  | first :: rest =>
    let largest := rest.foldl max first
    let smallest := rest.foldl min first
    decide (1e8 ≤ largest) || decide (smallest < 1e-4) || decide (1000 < largest / smallest)

/-! ## Parts of a number -/

/-- A finite number taken apart: its integer part with the sign, the digits after the point, and
the exponent. -/
structure Parts where
  whole : String
  fraction : List Char
  exponent : Int

def signText (negative : Bool) : String := if negative then "-" else ""

/-- A decimal with the point in its place. -/
def positionalParts (negative : Bool) (d : Digits) : Parts :=
  ⟨signText negative ++ toString d.integerPart, d.fractionPart, 0⟩

/-- A decimal with the point behind its first digit. -/
def scientificParts (negative : Bool) (d : Digits) : Parts :=
  ⟨signText negative ++ String.ofList d.leadingDigit, d.mantissaFraction, d.exponent⟩

/-- The digits that the number `significand * 2 ^ exponent` asks for with the point in its place. -/
def positionalDigits (significand : Nat) (exponent : Int) : Digits :=
  let d := shortest significand exponent
  if d.fractionPart.length ≤ maxPlaces then d
  else (Ratio.ofBinary significand exponent).places maxPlaces

/-- The digits that the number `significand * 2 ^ exponent` asks for with the point behind the first
one. -/
def scientificDigits (significand : Nat) (exponent : Int) : Digits :=
  let d := shortest significand exponent
  if d.mantissaFraction.length ≤ maxPlaces then d
  else (Ratio.ofBinary significand exponent).significant (maxPlaces + 1)

/-- The parts of a number with the digits it asks for; an infinity and NaN have none. -/
def parts? (scientific : Bool) (x : Float) : Option Parts :=
  match Binary.ofFloat x with
  | .finite negative significand exponent =>
    some (if scientific then scientificParts negative (scientificDigits significand exponent)
      else positionalParts negative (positionalDigits significand exponent))
  | _ => none

/-! ## Fields -/

/-- The text filled up with blanks on the left. -/
def padLeft (width : Nat) (text : String) : String :=
  "".pushn ' ' (width - text.length) ++ text

/-- The largest number of a list, zero if there is none. -/
def largest (numbers : List Nat) : Nat := numbers.foldl max 0

/-- The sign and digits of an exponent, filled up with zeros behind the sign. -/
def paddedExponent (width : Nat) (x : Int) : String :=
  let digits := Nat.toDigits 10 x.natAbs
  String.ofList ((if x < 0 then '-' else '+') ::
    List.replicate (width - digits.length) '0' ++ digits)

/-- A style in which several numbers are written. -/
structure NumberStyle where
  scientific : Bool
  /-- The longest integer part, with its sign. -/
  whole : Nat
  /-- The most digits after the point. -/
  fraction : Nat
  /-- The most digits of an exponent, at least two. -/
  exponent : Nat

namespace NumberStyle

/-- The style that fits the given numbers. -/
def of (numbers : List Float) : NumberStyle :=
  let scientific := usesExponent numbers
  let parts := numbers.filterMap (parts? scientific)
  { scientific := scientific
    whole := largest (parts.map (·.whole.length))
    fraction := largest (parts.map (·.fraction.length))
    exponent := largest (2 :: parts.map fun p => digitCount p.exponent.natAbs) }

/-- The parts of a number before an exponent, with its digits filled up. -/
def fill (style : NumberStyle) (filler : Char) (p : Parts) : String :=
  padLeft style.whole p.whole ++ "." ++ String.ofList p.fraction ++
    "".pushn filler (style.fraction - p.fraction.length)

/-- The number `± significand * 2 ^ exponent`. -/
def finite (style : NumberStyle) (negative : Bool) (significand : Nat) (exponent : Int) : String :=
  if style.scientific then
    let d := (Ratio.ofBinary significand exponent).significant (style.fraction + 1)
    let p := scientificParts negative d
    style.fill '0' p ++ "e" ++ paddedExponent style.exponent p.exponent
  else style.fill ' ' (positionalParts negative (positionalDigits significand exponent))

/-- A number, not yet brought to a width. -/
def text (style : NumberStyle) (x : Float) : String :=
  match Binary.ofFloat x with
  | .nan => "nan"
  | .infinite negative => signText negative ++ "inf"
  | .finite negative significand exponent => style.finite negative significand exponent

end NumberStyle

/-- How numbers are written in fields of one width. -/
structure NumberField where
  style : NumberStyle
  width : Nat

namespace NumberField

/-- The field that fits the given numbers. -/
def of (numbers : List Float) : NumberField :=
  let style := NumberStyle.of numbers
  ⟨style, largest (numbers.map fun x => (style.text x).length)⟩

/-- A number in its field. -/
def render (field : NumberField) (x : Float) : String := padLeft field.width (field.style.text x)

end NumberField

end ProjectedNewton.Text
