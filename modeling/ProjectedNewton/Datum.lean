import ProjectedNewton.Decimal.Numeral

/-!
# Loosely typed values

Arguments reach the solver as values of any kind. `Datum.number?` reads a value as a number, with
integers kept exact; `Datum.scalar` reads it as one entry of an array, where texts count as the
number they spell and the null value as NaN.
-/

namespace ProjectedNewton

/-- A value of any kind. -/
inductive Datum where
  | null
  | bool (b : Bool)
  | int (n : Int)
  | real (x : Float)
  | text (s : String)
  | list (elements : List Datum)
  | object
  deriving Inhabited

/-- Why a value cannot be read. -/
inductive ReadError where
  /-- The value is of a kind that has no reading. -/
  | wrongKind
  /-- A text spells no number, or the lists of an array do not form one. -/
  | malformed
  /-- An integer is beyond all doubles. -/
  | tooLarge
  deriving DecidableEq

/-- A number as it was given: an integer of any size, or a double. -/
inductive Number where
  | int (n : Int)
  | real (x : Float)

namespace Number

/-- The number lies strictly between zero and one. No integer does. -/
def isProperFraction : Number → Bool
  | int _ => false
  | real x => decide (0.0 < x) && decide (x < 1.0)

/-- The number is at least zero. -/
def isNonneg : Number → Bool
  | int n => decide (0 ≤ n)
  | real x => decide (0.0 ≤ x)

/-- The double nearest to the number. -/
def toFloat : Number → Except ReadError Float
  | int n => match Decimal.nearestInt? n with
    | some x => .ok x
    | none => .error .tooLarge
  | real x => .ok x

/-- The number without its fraction. -/
def integerPart : Number → Except ReadError Int
  | int n => .ok n
  | real x => match Decimal.Binary.ofFloat x with
    | .nan => .error .malformed
    | .infinite _ => .error .tooLarge
    | .finite negative significand exponent =>
      let r := Decimal.Ratio.ofBinary significand exponent
      .ok (if negative then -(r.num / r.den : Nat) else (r.num / r.den : Nat))

end Number

namespace Datum

/-- The number that a value is; truth values count as one and zero. -/
def number? : Datum → Option Number
  | bool b => some (.int b.toInt)
  | int n => some (.int n)
  | real x => some (.real x)
  | _ => none

/-- The value is a number, or a list of numbers in any depth. -/
def isNumeric : Datum → Bool
  | list elements => elements.attach.all fun ⟨d, _⟩ => d.isNumeric
  | d => d.number?.isSome

/-- The integer that a value is. Truth values and doubles do not count. -/
def int? : Datum → Option Int
  | int n => some n
  | _ => none

/-- The value as one entry of an array of doubles. -/
def scalar : Datum → Except ReadError Float
  | null => .ok (0.0 / 0.0)
  | bool b => .ok (if b then 1.0 else 0.0)
  | int n => (Number.int n).toFloat
  | real x => .ok x
  | text s => match Decimal.Numeral.read? s with
    | some x => .ok x
    | none => .error .malformed
  | list _ => .error .malformed
  | object => .error .wrongKind

end Datum

end ProjectedNewton
