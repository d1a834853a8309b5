import CanvasScript.Json.Number
import CanvasScript.Json.Text

/-!
# Reading JSON values

Lists and objects are read by two loops over any reader of elements, so that a
text can be read straight into a type. `value depth` reads any value with at most
`depth` containers inside each other; `parse` reads a whole text.
-/

namespace CanvasScript.Json

/-- Whether another element of a list follows, and the input at it or at the
closing bracket. -/
def nextItem (first : Bool) (input : Input) : Except Mistake (Bool × Input) :=
  let input := input.skipSpaces
  match input.rest with
  | [] => input.failAhead .endInList
  | ']' :: _ => .ok (false, input)
  | c :: _ =>
    if first then .ok (true, input)
    else if c = ',' then
      let input := input.tail.skipSpaces
      match input.rest with
      | [] => input.failAhead .endInValue
      | ']' :: _ => input.failAhead .trailingComma
      | _ => .ok (true, input)
    else input.failAhead .listCommaExpected

/-- The input behind the closing bracket of a list of which no more is read. -/
def endList (input : Input) : Except Mistake Input :=
  let input := input.skipSpaces
  match input.rest with
  | [] => input.failAhead .endInList
  | ']' :: _ => .ok input.tail
  | ',' :: _ =>
    let input := input.tail.skipSpaces
    input.failAhead (if input.startsWith [']'] then .trailingComma else .trailingCharacters)
  | _ => input.failAhead .trailingCharacters

/-- Whether another field of an object follows, and the input at its key or at the
closing brace. -/
def nextMember (first : Bool) (input : Input) : Except Mistake (Bool × Input) :=
  let input := input.skipSpaces
  match input.rest with
  | [] => input.failAhead .endInObject
  | '\x7d' :: _ => .ok (false, input)
  | c :: _ =>
    if first then
      if c = '"' then .ok (true, input) else input.failAhead .keyNotString
    else if c = ',' then
      let input := input.tail.skipSpaces
      match input.rest with
      | [] => input.failAhead .endInValue
      | '"' :: _ => .ok (true, input)
      | '\x7d' :: _ => input.failAhead .trailingComma
      | _ => input.failAhead .keyNotString
    else input.failAhead .objectCommaExpected

/-- The input behind the colon of a field. -/
def colon (input : Input) : Except Mistake Input :=
  let input := input.skipSpaces
  match input.rest with
  | [] => input.failAhead .endInObject
  | ':' :: _ => .ok input.tail
  | _ => input.failAhead .colonExpected

/-- The input behind the closing brace of an object of which no more is read. -/
def endObject (input : Input) : Except Mistake Input :=
  let input := input.skipSpaces
  match input.rest with
  | [] => input.failAhead .endInObject
  | '\x7d' :: _ => .ok input.tail
  | ',' :: _ => input.failAhead .trailingComma
  | _ => input.failAhead .trailingCharacters

/-- The elements of a list up to its closing bracket, each taking at least one
character of the fuel; those read come last first. -/
def items (element : Reader α) : (fuel : Nat) → (first : Bool) → (read : List α) → Reader (List α)
  | 0, _, _, input => input.failAhead .endInList
  | fuel + 1, first, read, input => do
    let (more, input) ← nextItem first input
    if more then
      let (a, input) ← element input
      items element fuel false (a :: read) input
    else return (read.reverse, input)

/-- The fields of an object up to its closing brace, in the order of the text. -/
def members (element : Reader α) :
    (fuel : Nat) → (first : Bool) → (read : List (String × α)) → Reader (List (String × α))
  | 0, _, _, input => input.failAhead .endInObject
  | fuel + 1, first, read, input => do
    let (more, input) ← nextMember first input
    if more then
      let (key, input) ← string input.tail
      let (a, input) ← element (← colon input)
      members element fuel false ((key, a) :: read) input
    else return (read.reverse, input)

/-- A list, at its opening bracket. -/
def list (element : Reader α) : Reader (List α) := fun input => do
  let (read, input) ← items element input.rest.length true [] input.tail
  return (read, ← endList input)

/-- An object as its pairs, at its opening brace. -/
def object (element : Reader α) : Reader (List (String × α)) := fun input => do
  let (read, input) ← members element input.rest.length true [] input.tail
  return (read, ← endObject input)

/-- A number starts here. -/
def startsNumber (c : Char) : Bool := c == '-' || Text.isAsciiDigit c

/-- A value that is no container, or the container that `container` reads. -/
def valueWith (container : Char → Reader Value) : Reader Value := fun input => do
  let input := input.skipSpaces
  match input.rest with
  | [] => input.failAhead .endInValue
  | 'n' :: _ => return (.null, ← word ['n', 'u', 'l', 'l'] input)
  | 't' :: _ => return (.bool true, ← word ['t', 'r', 'u', 'e'] input)
  | 'f' :: _ => return (.bool false, ← word ['f', 'a', 'l', 's', 'e'] input)
  | '"' :: _ =>
    let (s, input) ← string input.tail
    return (.string s, input)
  | c :: _ =>
    if startsNumber c then number input
    else if c = '[' ∨ c = '\x7b' then container c input
    else input.failAhead .valueExpected

/-- A value with at most `depth` containers inside each other, `keep` making the fields
of an object from its pairs. -/
def valueKeeping (keep : List (String × Value) → Fields) : (depth : Nat) → Reader Value
  | 0 => valueWith fun _ input => input.failAhead .nestingLimit
  | depth + 1 => valueWith fun c input => do
    if c = '[' then
      let (read, input) ← list (valueKeeping keep depth) input
      return (.array read, input)
    else
      let (read, input) ← object (valueKeeping keep depth) input
      return (.object (keep read), input)

/-- A value with at most `depth` containers inside each other. -/
def value (depth : Nat) : Reader Value := valueKeeping Fields.ofList depth

/-- A value with the fields of its objects as they are written, repeated ones included. -/
def valueAsWritten (depth : Nat) : Reader Value := valueKeeping id depth

/-- How many containers may stand inside each other in a text. -/
def nestingLimit : Nat := 127

/-- A whole text, with nothing but blanks behind what is read. -/
def wholeText (reader : Reader α) (text : String) : Except Mistake α := do
  let (a, input) ← reader (Input.ofText text)
  let input := input.skipSpaces
  if input.rest.isEmpty then return a else input.failAhead .trailingCharacters

/-- The value written by a text. -/
def parse (text : String) : Except Mistake Value := wholeText (value nestingLimit) text

/-- The failure for a value that is not what was expected: a container is found at
its bracket, all else where it ends. -/
def wrongType (expected : String) (input : Input) : Except Mistake α :=
  let placed : Reader Found := fun input => do
    let (v, input) ← valueWith (fun c input => return (if c = '[' then .array [] else .object [], input)) input
    return (Found.ofValue v, input)
  match placed input with
  | .ok (found, input) => input.failHere (.wrongType found expected)
  | .error m => .error m

/-- A list of values, as the outermost value of a text. -/
def valueList : Reader (List Value) := fun input =>
  let input := input.skipSpaces
  match input.rest with
  | [] => input.failAhead .endInValue
  | '[' :: _ => list (value (nestingLimit - 1)) input
  | _ => wrongType "a sequence" input

end CanvasScript.Json
