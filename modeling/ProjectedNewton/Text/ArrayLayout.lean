import ProjectedNewton.Tensor
import ProjectedNewton.Text.NumberFields

/-!
# The layout of arrays

An array of doubles is written in brackets, one pair for every axis, with all numbers in fields of
one width. Along the last axis the numbers are broken into lines; along the others every part starts
a new line, after one more line break for every further axis. A line is indented by one blank for
every bracket that is open. Of a long array only the first and last parts along every axis are
shown.
-/

namespace ProjectedNewton.Text

/-! ## Rules -/

/-- An array with more entries is shortened. -/
def summaryThreshold : Nat := 1000

/-- The number of parts that a shortened array shows at each end of an axis. -/
def edgeCount : Nat := 3

/-- The text in place of the parts that are left out. -/
def ellipsis : String := "..."

/-- The number of characters of a line that numbers may fill outside of inner brackets; a last
bracket may go beyond. -/
def lineWidth : Nat := 74

/-! ## Shortening -/

/-- The parts along an axis that are shown, and nothing in place of those that are left out. -/
def shownParts {α : Type} (shortened : Bool) (parts : List α) : List (Option α) :=
  if shortened && decide (2 * edgeCount < parts.length) then
    (parts.take edgeCount).map some ++ none ::
      (parts.drop (parts.length - edgeCount)).map some
  else parts.map some

/-- The entries that are shown. -/
def shownEntries (shortened : Bool) : (shape : List Nat) → Grid Float shape → List Float
  | [], x => [x]
  | _ :: shape, v => (shownParts shortened (Vector.toList v)).flatMap fun
    | some part => shownEntries shortened shape part
    | none => []

/-! ## Lines -/

def blanks (count : Nat) : String := "".pushn ' ' count

/-- The text without blanks at its end. -/
def trimRight (text : String) : String :=
  String.ofList (text.toList.reverse.dropWhile (· == ' ')).reverse

/-- Puts elements on indented lines, after the line in hand. An element that would make the line too
long starts a new one, unless the line is still empty. -/
def fillLines (indent width : Nat) : String → List String → String
  | line, [] => line
  | line, element :: rest =>
    let tooLong := indent < line.length && width < line.length + element.length
    let (done, line) := if tooLong then (trimRight line ++ "\n", blanks indent) else ("", line)
    done ++ fillLines indent width (line ++ element ++ if rest.isEmpty then "" else " ") rest

/-- The text of a part of an array inside of `depth` brackets. The first line of a part continues
the line of its bracket. -/
def layout (shortened : Bool) (field : NumberField) :
    (shape : List Nat) → (depth : Nat) → Grid Float shape → String
  | [], _, x => field.render x
  | [_], depth, v =>
    let indent := depth + 1
    let elements := (shownParts shortened (Vector.toList v)).map fun part =>
      part.elim ellipsis field.render
    let lines := fillLines indent (lineWidth - depth) (blanks indent) elements
    "[" ++ String.ofList (lines.toList.drop indent) ++ "]"
  | _ :: n :: shape, depth, v =>
    let parts := (shownParts shortened (Vector.toList v)).map fun part =>
      part.elim ellipsis (layout shortened field (n :: shape) (depth + 1))
    let lineBreak := "".pushn '\n' (shape.length + 1) ++ blanks (depth + 1)
    "[" ++ lineBreak.intercalate parts ++ "]"

/-- The text of an array. -/
def arrayText (a : Tensor Float) : String :=
  let count := a.shape.foldl (· * ·) 1
  let shortened := decide (summaryThreshold < count)
  if count = 0 then "[]"
  else
    let field := NumberField.of (shownEntries shortened a.shape a.entries)
    layout shortened field a.shape 0 a.entries

end ProjectedNewton.Text
