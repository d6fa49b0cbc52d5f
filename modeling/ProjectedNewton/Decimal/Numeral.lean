import ProjectedNewton.Decimal.Digits

/-!
# Numerals

The numbers that a text may spell: between blanks, an optional sign and then either a decimal with
an optional point and exponent, or one of the words `inf`, `infinity` and `nan` in any mixture of
capitals. The blanks are the six of ASCII and the separators beyond it. The digits may be those of
any script, where the ten digits always follow each other in order, and single underscores may stand
between digits.

`Numeral.read?` gives the double nearest to the number that is spelled, and an infinity where that
number is too large.
-/

namespace ProjectedNewton

/-! ## Blanks and digits of all scripts -/

namespace Text

/-- First and last code points of the ranges of blanks. -/
def blankRanges : List (Nat × Nat) :=
  [(0x9, 0xd), (0x20, 0x20),
   (0x85, 0x85), (0xa0, 0xa0), (0x1680, 0x1680), (0x2000, 0x200a), (0x2028, 0x2029),
   (0x202f, 0x202f), (0x205f, 0x205f), (0x3000, 0x3000)]

/-- The character is blank. -/
def isBlank (c : Char) : Bool :=
  blankRanges.any fun (first, last) => first ≤ c.toNat && c.toNat ≤ last

/-- The text without blanks at both ends. -/
def trimBlanks (text : List Char) : List Char :=
  ((text.dropWhile isBlank).reverse.dropWhile isBlank).reverse

/-- The code points of the digit zero in the scripts beyond ASCII. -/
def scriptZeros : List Nat :=
  [
    0x660, 0x6f0, 0x7c0, 0x966, 0x9e6, 0xa66, 0xae6, 0xb66, 0xbe6, 0xc66, 0xce6, 0xd66, 0xde6,
    0xe50, 0xed0, 0xf20, 0x1040, 0x1090, 0x17e0, 0x1810, 0x1946, 0x19d0, 0x1a80, 0x1a90, 0x1b50,
    0x1bb0, 0x1c40, 0x1c50, 0xa620, 0xa8d0, 0xa900, 0xa9d0, 0xa9f0, 0xaa50, 0xabf0, 0xff10,
    0x104a0, 0x10d30, 0x11066, 0x110f0, 0x11136, 0x111d0, 0x112f0, 0x11450, 0x114d0, 0x11650,
    0x116c0, 0x11730, 0x118e0, 0x11950, 0x11c50, 0x11d50, 0x11da0, 0x16a60, 0x16ac0, 0x16b50,
    0x1d7ce, 0x1d7d8, 0x1d7e2, 0x1d7ec, 0x1d7f6, 0x1e140, 0x1e2f0, 0x1e950, 0x1fbf0]

/-- The value of a decimal digit of any script. -/
def digitValue? (c : Char) : Option Nat :=
  let code := c.toNat
  if code < 128 then
    if c.isDigit then some (code - '0'.toNat) else none
  else (scriptZeros.find? fun start => start ≤ code && code < start + 10).map (code - ·)

end Text

namespace Decimal

open Text

/-- A number as it is spelled. -/
inductive Numeral where
  | nan
  | infinite
  | decimal (value : Nat) (unit : Int)

namespace Numeral

/-! ## Digits -/

/-- The digits that follow a digit, and the rest. An underscore is skipped between two digits. -/
def moreDigits : List Char → List Nat × List Char
  | '_' :: c :: rest => match digitValue? c with
    | some d => let (digits, rest) := moreDigits rest; (d :: digits, rest)
    | none => ([], '_' :: c :: rest)
  | c :: rest => match digitValue? c with
    | some d => let (digits, rest) := moreDigits rest; (d :: digits, rest)
    | none => ([], c :: rest)
  | [] => ([], [])

/-- The digits at the beginning of a text, and the rest. -/
def leadingDigits : List Char → List Nat × List Char
  | '_' :: rest => ([], '_' :: rest)
  | text => moreDigits text

/-- The number that a sequence of digits stands for. -/
def ofDigits (digits : List Nat) : Nat := digits.foldl (fun n d => 10 * n + d) 0

/-! ## Parts of a numeral -/

/-- An optional sign, given as whether it is a minus, and the rest. -/
def sign : List Char → Bool × List Char
  | '-' :: rest => (true, rest)
  | '+' :: rest => (false, rest)
  | text => (false, text)

/-- An optional point with digits after it, and the rest. -/
def fraction : List Char → List Nat × List Char
  | '.' :: rest => leadingDigits rest
  | text => ([], text)

/-- The exponent that a text consists of; no text is the exponent zero. -/
def exponent? : List Char → Option Int
  | [] => some 0
  | c :: rest =>
    if c = 'e' ∨ c = 'E' then
      let (negative, rest) := sign rest
      match leadingDigits rest with
      | (d :: digits, []) =>
        let n : Int := ofDigits (d :: digits)
        some (if negative then -n else n)
      | _ => none
    else none

/-- A number without sign that is spelled with digits. -/
def decimal? (text : List Char) : Option Numeral := do
  let (whole, rest) := leadingDigits text
  let (after, rest) := fraction rest
  if whole.isEmpty && after.isEmpty then none
  else
    let exponent ← exponent? rest
    some (decimal (ofDigits (whole ++ after)) (exponent - after.length))

/-- A number without sign. -/
def unsigned? (text : List Char) : Option Numeral :=
  let word := String.ofList (text.map Char.toLower)
  if word = "inf" ∨ word = "infinity" then some infinite
  else if word = "nan" then some nan
  else decimal? text

/-! ## Values -/

/-- Decimals from this power of ten on are beyond all doubles. -/
def tooLarge : Int := 310

/-- Decimals below this power of ten are nearest to zero. -/
def tooSmall : Int := -400

/-- The double nearest to `value * 10 ^ unit`. Numbers far outside the range of doubles are decided
by their size alone, so that no huge power is computed. -/
def nearestDecimal (value : Nat) (unit : Int) : Float :=
  let infinity := 1.0 / 0.0
  let d : Digits := ⟨value, unit⟩
  if value = 0 ∨ d.exponent < tooSmall then 0.0
  else if tooLarge ≤ d.exponent then infinity
  else (nearest? d.ratio).getD infinity

/-- The double nearest to a number. -/
def toFloat : Numeral → Float
  | nan => 0.0 / 0.0
  | infinite => 1.0 / 0.0
  | decimal value unit => nearestDecimal value unit

/-- The double that a text spells, if it spells a number. -/
def read? (text : String) : Option Float := do
  let (negative, rest) := sign (trimBlanks text.toList)
  let x ← unsigned? rest
  some (if negative then -x.toFloat else x.toFloat)

end Numeral

/-- The double nearest to an integer, or nothing if the integer is too large. -/
def nearestInt? (n : Int) : Option Float := do
  let x ← nearest? ⟨n.natAbs, 1⟩
  some (if n < 0 then -x else x)

end Decimal

end ProjectedNewton
