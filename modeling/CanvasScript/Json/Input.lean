import CanvasScript.Json.Mistake

/-!
# The text that is left to read

An input is the rest of a text and the place where it starts. Places count
bytes. Every mistake found at a byte is placed one byte further, whether that
byte is taken or only looked at, and at the end of the text where it ends.
-/

namespace CanvasScript.Json

/-- The place behind a character. -/
def Place.over (place : Place) (c : Char) : Place :=
  if c = '\n' then { line := place.line + 1, column := 0 }
  else { place with column := place.column + c.utf8Size }

/-- The place behind the first `count` bytes, which may end inside a character. -/
def Place.overBytes (place : Place) : (count : Nat) → List Char → Place
  | 0, _ | _, [] => place
  | count + 1, c :: rest =>
    if c.utf8Size ≤ count + 1 then (place.over c).overBytes (count + 1 - c.utf8Size) rest
    else { place with column := place.column + (count + 1) }
termination_by _ cs => cs

/-- The rest of a text and the place where it starts. -/
structure Input where
  rest : List Char
  place : Place

namespace Input

def ofText (text : String) : Input := { rest := text.toList, place := { line := 1, column := 0 } }

/-- One byte further than the start of the rest. -/
def ahead (input : Input) : Place := input.place.overBytes 1 input.rest

/-- The input without its first character. -/
def tail (input : Input) : Input :=
  match input.rest with
  | [] => input
  | c :: rest => { rest, place := input.place.over c }

/-- A blank of the format. -/
def isSpace (c : Char) : Bool := c == ' ' || c == '\n' || c == '\t' || c == '\r'

/-- The input behind its leading blanks. -/
def skipSpaces (input : Input) : Input := go input.place input.rest
where
  go (place : Place) : List Char → Input
    | [] => { rest := [], place }
    | c :: rest => if isSpace c then go (place.over c) rest else { rest := c :: rest, place }

/-- The input without `count` characters of one byte that end no line. -/
def drop (input : Input) (count : Nat) : Input where
  rest := input.rest.drop count
  place := { input.place with column := input.place.column + count }

/-- A failure one byte further. -/
def failAhead (input : Input) (cause : Cause) : Except Mistake α := .error (cause.at input.ahead)

/-- A failure at the start of the rest. -/
def failHere (input : Input) (cause : Cause) : Except Mistake α := .error (cause.at input.place)

end Input

/-- Reads a value from an input and gives what is left. -/
abbrev Reader (α : Type) := Input → Except Mistake (α × Input)

/-- The characters of a word, one after the other. -/
def word : List Char → Input → Except Mistake Input
  | [], input => .ok input
  | c :: cs, input =>
    match input.rest with
    | [] => input.failHere .endInValue
    | d :: _ => if c = d then word cs input.tail else input.failAhead .identExpected

end CanvasScript.Json
