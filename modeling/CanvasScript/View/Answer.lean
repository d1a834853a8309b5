import CanvasScript.Text.DecimalDigit
import CanvasScript.View

/-!
# Rectangles in answers

An answer in prose holds a rectangle as numbers between zero and one: left, top,
right and bottom. All that is no number is passed over, and so are numbers in the
digits of other scripts.
-/

namespace CanvasScript

open Text (isAsciiDigit isDecimalDigit)

/-- A number as it stands in a text. -/
structure Literal where
  negative : Bool
  whole : List Char
  fraction : List Char
  deriving DecidableEq

namespace Literal

/-- The literal as it is written. -/
def chars (n : Literal) : List Char :=
  (if n.negative then ['-'] else []) ++ n.whole ++ (if n.fraction.isEmpty then [] else '.' :: n.fraction)

/-- The digits behind a point, if there are any. -/
def fractionOf : List Char → List Char
  | '.' :: rest => rest.takeWhile isDecimalDigit
  | _ => []

/-- The literal without a sign that a text starts with. -/
def unsigned? (negative : Bool) (text : List Char) : Option Literal :=
  let whole := text.takeWhile isDecimalDigit
  if whole.isEmpty then none
  else some { negative, whole, fraction := fractionOf (text.drop whole.length) }

/-- The literal that a text starts with. -/
def ofText? : List Char → Option Literal
  | '-' :: rest => unsigned? true rest
  | text => unsigned? false text

/-- The literals of a text behind its first `skip` characters, from left to right. -/
def scanFrom : (skip : Nat) → List Char → List Literal
  | _, [] => []
  | skip + 1, _ :: rest => scanFrom skip rest
  | 0, c :: rest =>
    match ofText? (c :: rest) with
    | none => scanFrom 0 rest
    | some n => n :: scanFrom (n.chars.length - 1) rest

/-- The literals of a text, from left to right. -/
def scan (text : List Char) : List Literal := scanFrom 0 text

/-- The value of a literal in digits of ASCII. -/
def value? (n : Literal) : Option Binary64 :=
  if n.whole.all isAsciiDigit && n.fraction.all isAsciiDigit then
    some (Decimal.nearest n.negative
      { digits := Decimal.ofDigits (n.whole ++ n.fraction), exponent := -n.fraction.length })
  else none

end Literal

/-- The numbers of an answer, in order. -/
def answerNumbers (answer : List Char) : List Binary64 := (Literal.scan answer).filterMap Literal.value?

/-- The first four of at least four numbers; of exactly five the first is a measure
of confidence and left out. -/
def corners? : List α → Option (α × α × α × α)
  | [_, left, top, right, bottom] => some (left, top, right, bottom)
  | left :: top :: right :: bottom :: _ => some (left, top, right, bottom)
  | _ => none

/-- The rectangle between two corners given as shares of the canvas, in whole pixels. -/
def Rect.ofShares [Scalar α] (left top right bottom : α) (canvas : Size α) : Rect α :=
  Rect.of (Scalar.floor (left * canvas.width)) (Scalar.floor (top * canvas.height))
    (Scalar.floor ((right - left) * canvas.width)) (Scalar.floor ((bottom - top) * canvas.height))

/-- The rectangle that numbers stand for, if there are enough. -/
def Rect.ofNumbers? [Scalar α] (numbers : List α) (canvas : Size α) : Option (Rect α) :=
  (corners? numbers).map fun (left, top, right, bottom) => Rect.ofShares left top right bottom canvas

/-- The rectangle in an answer. -/
def Rect.ofAnswer? (answer : String) (canvas : Size Binary64) : Option (Rect Binary64) :=
  Rect.ofNumbers? (answerNumbers answer.toList) canvas

end CanvasScript
