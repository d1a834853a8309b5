import CanvasScript.Json.Input
import CanvasScript.Text.DecimalDigit

/-!
# Reading numbers

A number has a whole part without a leading zero, and may have a fraction and
an exponent. Without both it is an integer if it fits 64 bits: not negative and
below `2 ^ 64`, or negative and at least `-2 ^ 63`. Every other number, minus
zero too, is the nearest floating-point number, which must be finite.
-/

namespace CanvasScript.Json

open Text (isAsciiDigit)

/-- The digits an input starts with. -/
def Input.digits (input : Input) : List Char := input.rest.takeWhile isAsciiDigit

/-- The input starts with one of the characters. -/
def Input.startsWith (input : Input) (choices : List Char) : Bool :=
  match input.rest with
  | [] => false
  | c :: _ => choices.contains c

/-- The digits before the point: a zero alone, or digits that start with none. -/
def wholePart (input : Input) : Except Mistake (List Char × Input) :=
  match input.rest with
  | [] => input.failHere .endInValue
  | '0' :: _ =>
    if (input.drop 1).digits.isEmpty then .ok (['0'], input.drop 1)
    else (input.drop 1).failAhead .invalidNumber
  | c :: _ =>
    if isAsciiDigit c then .ok (input.digits, input.drop input.digits.length)
    else input.failAhead .invalidNumber

/-- The digits behind the point, if there is one. -/
def fraction (input : Input) : Except Mistake (Option (List Char) × Input) :=
  if input.startsWith ['.'] then
    let input := input.drop 1
    let ds := input.digits
    if ds.isEmpty then
      input.failAhead (if input.rest.isEmpty then .endInValue else .invalidNumber)
    else .ok (some ds, input.drop ds.length)
  else .ok (none, input)

/-- An exponent: its sign and its digits. -/
structure Exponent where
  negative : Bool
  digits : List Char

def Exponent.value (e : Exponent) : Int :=
  if e.negative then -(Decimal.ofDigits e.digits : Int) else Decimal.ofDigits e.digits

/-- The greatest exponent that is read as a number. -/
def exponentLimit : Nat := 2147483647

/-- How many digits make the exponent exceed the limit, if it does. -/
def Exponent.overflowAt? (e : Exponent) : Option Nat :=
  go 0 0 e.digits
where
  go (value count : Nat) : List Char → Option Nat
    | [] => none
    | c :: cs =>
      let value := value * 10 + Decimal.digitValue c
      if exponentLimit < value then some (count + 1) else go value (count + 1) cs

/-- The exponent, if there is one, and where its digits start. -/
def exponent (input : Input) : Except Mistake (Option (Exponent × Input) × Input) :=
  if input.startsWith ['e', 'E'] then
    let input := input.drop 1
    let negative := input.startsWith ['-']
    let input := if input.startsWith ['+', '-'] then input.drop 1 else input
    let ds := input.digits
    if ds.isEmpty then
      if input.rest.isEmpty then input.failHere .endInValue else input.failAhead .invalidNumber
    else .ok (some ({ negative, digits := ds }, input), input.drop ds.length)
  else .ok (none, input)

/-- An integer, or the nearest floating-point number of one that does not fit. -/
def integer (negative : Bool) (n : Nat) : Value :=
  if negative then
    if 0 < n ∧ n ≤ Binary64.int64Bound then .int (-n) else .float (Decimal.nearest true { digits := n, exponent := 0 })
  else if n < UInt64.size then .int n else .float (Decimal.nearest false { digits := n, exponent := 0 })

/-- A number from its sign and its parts, the input being what follows it.

A decimal is read as the floating-point number nearest to it. A faster reader scales the leading
digits that fit 64 bits by a floating-point power of ten, and so rounds twice. The two agree when
the digits together are below `2 ^ 53` and the power of ten is at most 22 either way; elsewhere the
faster one is off by a unit in the last place for some decimals, and it finds a few out of range
that round to the greatest finite number, such as `1.7976931348623158e308`. -/
def numberOf (negative : Bool) (whole : List Char) (fraction? : Option (List Char))
    (exponent? : Option (Exponent × Input)) (input : Input) : Except Mistake Value :=
  let digits := Decimal.ofDigits (whole ++ fraction?.getD [])
  let shift : Int := (fraction?.getD []).length
  let finite (value : Value) : Except Mistake Value :=
    match value with
    | .float x => if x.isFinite then .ok value else input.failHere .numberOutOfRange
    | _ => .ok value
  match fraction?, exponent? with
  | none, none => finite (integer negative digits)
  | some _, none => finite (.float (Decimal.nearest negative { digits, exponent := -shift }))
  | _, some (e, start) =>
    match e.overflowAt? with
    | some count =>
      if digits = 0 ∨ e.negative then .ok (.float { Binary64.zero with negative })
      else (start.drop count).failHere .numberOutOfRange
    | none => finite (.float (Decimal.nearest negative { digits, exponent := e.value - shift }))

/-- A number, at its minus sign or first digit. -/
def number : Reader Value := fun input => do
  let negative := input.startsWith ['-']
  let input := if negative then input.drop 1 else input
  let (whole, input) ← wholePart input
  let (fraction?, input) ← fraction input
  let (exponent?, input) ← exponent input
  let value ← numberOf negative whole fraction? exponent? input
  return (value, input)

/-- The input behind a number of which only the form matters; one that breaks
off is as wrong as any other. -/
def skipNumber (input : Input) : Except Mistake Input :=
  let broken (m : Mistake) : Mistake :=
    match m.cause with
    | .endInValue => { m with cause := .invalidNumber }
    | _ => m
  let parts : Except Mistake Input := do
    let input := if input.startsWith ['-'] then input.drop 1 else input
    let (_, input) ← wholePart input
    let (_, input) ← fraction input
    let (_, input) ← exponent input
    return input
  parts.mapError broken

end CanvasScript.Json
