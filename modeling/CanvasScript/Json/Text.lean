import CanvasScript.Json.Input

/-!
# Reading strings

A string ends at the next quote that is not escaped. Characters outside the
first plane may be escaped as two halves, which must come together.
-/

namespace CanvasScript.Json

/-- The value of a hexadecimal digit. -/
def hexValue? (c : Char) : Option Nat :=
  if '0' ≤ c ∧ c ≤ '9' then some (c.toNat - '0'.toNat)
  else if 'a' ≤ c ∧ c ≤ 'f' then some (c.toNat - 'a'.toNat + 10)
  else if 'A' ≤ c ∧ c ≤ 'F' then some (c.toNat - 'A'.toNat + 10)
  else none

/-- The number written by four hexadecimal digits. -/
def hexUnit? : List Char → Option Nat
  | a :: b :: c :: d :: _ => do
    return (((← hexValue? a) * 16 + (← hexValue? b)) * 16 + (← hexValue? c)) * 16 + (← hexValue? d)
  | _ => none

/-- The bytes of the first characters of a text, counted up to four characters. -/
def bytesOfFour (cs : List Char) : Nat := (cs.take 4).foldl (fun bytes c => bytes + c.utf8Size) 0

/-- The four hexadecimal digits behind an escape and the input behind them; four
bytes are taken before any is judged. -/
def hexUnit (input : Input) : Except Mistake (Nat × Input) :=
  if bytesOfFour input.rest < 4 then
    .error (Cause.endInString.at (input.place.overBytes 4 input.rest))
  else
    match hexUnit? input.rest with
    | some n => .ok (n, input.drop 4)
    | none => .error (Cause.invalidEscape.at (input.place.overBytes 4 input.rest))

/-- The first half of a character outside the first plane. -/
def isHighHalf (n : Nat) : Bool := decide (0xD800 ≤ n) && decide (n ≤ 0xDBFF)

/-- The second half of a character outside the first plane. -/
def isLowHalf (n : Nat) : Bool := decide (0xDC00 ≤ n) && decide (n ≤ 0xDFFF)

/-- The character of two halves. -/
def joinHalves (high low : Nat) : Char :=
  Char.ofNat (0x10000 + (high - 0xD800) * 0x400 + (low - 0xDC00))

/-- The next character of an escaped second half, which must be the one given. -/
def halfMark (c : Char) (input : Input) : Except Mistake Input :=
  match input.rest with
  | [] => input.failHere .endInString
  | d :: _ => if c = d then .ok input.tail else input.failAhead .unfinishedSurrogate

/-- A character given by its code, behind the letter of the escape, and how many
characters that letter and the code take. -/
def codeEscape (input : Input) : Except Mistake (Char × Nat) := do
  let (high, input) ← hexUnit input
  if isLowHalf high then input.failHere .loneSurrogate
  else if isHighHalf high then
    let input ← halfMark '\\' input
    let input ← halfMark 'u' input
    let (low, input) ← hexUnit input
    if isLowHalf low then return (joinHalves high low, 11)
    else input.failHere .loneSurrogate
  else return (Char.ofNat high, 5)

/-- A character that stands for itself or for a control behind a backslash. -/
def plainEscape? (c : Char) : Option Char :=
  match c with
  | '"' => some '"'
  | '\\' => some '\\'
  | '/' => some '/'
  | 'b' => some '\x08'
  | 'f' => some '\x0c'
  | 'n' => some '\n'
  | 'r' => some '\r'
  | 't' => some '\t'
  | _ => none

/-- The character of an escape, behind its backslash, and how many characters of
the input it takes. -/
def escape (input : Input) : Except Mistake (Char × Nat) :=
  match input.rest with
  | [] => input.failHere .endInString
  | c :: _ =>
    if c = 'u' then codeEscape input.tail
    else
      match plainEscape? c with
      | some d => .ok (d, 1)
      | none => input.failAhead .invalidEscape

/-- A control that may not stand in a string. -/
def isControl (c : Char) : Bool := decide (c.toNat < 0x20)

/-- The characters up to the closing quote, the first `skip` being part of an
escape that is read already; those read come last first. -/
def stringFrom : (skip : Nat) → (read : List Char) → Place → List Char → Except Mistake (String × Input)
  | _, _, place, [] => .error (Cause.endInString.at place)
  | skip + 1, read, place, c :: rest => stringFrom skip read (place.over c) rest
  | 0, read, place, c :: rest =>
    if c = '"' then .ok (String.ofList read.reverse, { rest, place := place.over c })
    else if c = '\\' then
      match escape { rest, place := place.over c } with
      | .ok (d, skip) => stringFrom skip (d :: read) (place.over c) rest
      | .error m => .error m
    else if isControl c then .error (Cause.controlCharacter.at (place.over c))
    else stringFrom 0 (c :: read) (place.over c) rest

/-- A string, behind its opening quote. -/
def string : Reader String := fun input => stringFrom 0 [] input.place input.rest

/-- How many characters an escape takes of which only the form matters. -/
def escapeLength (input : Input) : Except Mistake Nat :=
  match input.rest with
  | [] => input.failHere .endInString
  | c :: _ =>
    if c = 'u' then (hexUnit input.tail).map fun _ => 5
    else if (plainEscape? c).isSome then .ok 1
    else input.failAhead .invalidEscape

/-- The input behind the closing quote of a string of which only the form
matters: halves of characters need not come together. -/
def skipStringFrom : (skip : Nat) → Place → List Char → Except Mistake Input
  | _, place, [] => .error (Cause.endInString.at place)
  | skip + 1, place, c :: rest => skipStringFrom skip (place.over c) rest
  | 0, place, c :: rest =>
    if c = '"' then .ok { rest, place := place.over c }
    else if c = '\\' then
      match escapeLength { rest, place := place.over c } with
      | .ok skip => skipStringFrom skip (place.over c) rest
      | .error m => .error m
    else if isControl c then .error (Cause.controlCharacter.at place)
    else skipStringFrom 0 (place.over c) rest

def skipString (input : Input) : Except Mistake Input := skipStringFrom 0 input.place input.rest

end CanvasScript.Json
