import ProjectedNewton.Decimal.Digits

/-!
# The shortest decimal of a double

Every double has an interval of numbers that are read as it: half way to its neighbours on both
sides, the ends included when its significand is even. `shortest` finds a decimal of the interval
with as few digits as possible, and the nearest to the double among those.

For each number of digits only two decimals need to be tried, the neighbours of the double on the
grid of decimals with that many digits: if any point of the grid lies in the interval, so does one
of them. Seventeen digits always suffice.
-/

namespace ProjectedNewton.Decimal

/-- The numbers that are read as one double. -/
structure ReadInterval where
  lower : Ratio
  upper : Ratio
  /-- The ends belong to the interval. -/
  closed : Bool

namespace ReadInterval

/-- The interval of the double `significand * 2 ^ exponent`. Below a power of two the next double is
only half as far away as above it. -/
def of (significand : Nat) (exponent : Int) : ReadInterval :=
  let belowIsNear :=
    significand == Binary.fieldUnit && decide (Binary.minExponent < exponent)
  { lower := .ofBinary (4 * significand - if belowIsNear then 1 else 2) (exponent - 2)
    upper := .ofBinary (4 * significand + 2) (exponent - 2)
    closed := significand % 2 == 0 }

def contains (interval : ReadInterval) (r : Ratio) : Bool :=
  if interval.closed then interval.lower.isLE r && r.isLE interval.upper
  else !r.isLE interval.lower && !interval.upper.isLE r

end ReadInterval

/-- The decimals next to `r` that count in units of `10 ^ unit`, the nearer one first, and of two
equally near ones the even one. -/
def neighbours (r : Ratio) (unit : Int) : List Digits :=
  let scaled := r.scale 10 (-unit)
  let low := scaled.floor
  if scaled.round = low then [⟨low, unit⟩, ⟨low + 1, unit⟩] else [⟨low + 1, unit⟩, ⟨low, unit⟩]

/-- The largest number of digits that may be needed. -/
def maxDigits : Nat := 17

/-- The shortest decimal that is read as the double `significand * 2 ^ exponent`. -/
def shortest (significand : Nat) (exponent : Int) : Digits :=
  let r := Ratio.ofBinary significand exponent
  let interval := ReadInterval.of significand exponent
  let first := r.exponent10
  let candidates := (List.range' 1 maxDigits).flatMap fun (count : Nat) =>
    neighbours r (first + 1 - count)
  if significand = 0 then ⟨0, 0⟩
  else (candidates.find? fun d => interval.contains d.ratio).getD (r.significant maxDigits)

end ProjectedNewton.Decimal
