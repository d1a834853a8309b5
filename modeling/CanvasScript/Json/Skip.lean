import CanvasScript.Json.Reader

/-!
# Passing over a value

A value nobody asks for is passed over by its form alone: containers may stand
inside each other to any depth, numbers of any size and halves of characters
are fine, and a comma before a closing bracket lacks a value.
-/

namespace CanvasScript.Json

/-- A container that is open. -/
inductive Container where
  | list
  | object
  deriving DecidableEq

namespace Container

def opener? : Char → Option Container
  | '[' => some list
  | '\x7b' => some object
  | _ => none

def closer : Container → Char
  | list => ']'
  | object => '\x7d'

def unclosed : Container → Cause
  | list => .endInList
  | object => .endInObject

def commaExpected : Container → Cause
  | list => .listCommaExpected
  | object => .objectCommaExpected

end Container

/-- The input at the value of the next element: that of a field is behind its key. -/
def skipKey (container : Container) (input : Input) : Except Mistake Input :=
  match container with
  | .list => .ok input
  | .object => do
    let input := input.skipSpaces
    match input.rest with
    | [] => input.failAhead .endInObject
    | '"' :: _ => colon (← skipString input.tail)
    | _ => input.failAhead .keyNotString

/-- The input behind a value that is no container. -/
def skipScalar (input : Input) : Except Mistake Input :=
  match input.rest with
  | [] => input.failAhead .endInValue
  | 'n' :: _ => word ['n', 'u', 'l', 'l'] input
  | 't' :: _ => word ['t', 'r', 'u', 'e'] input
  | 'f' :: _ => word ['f', 'a', 'l', 's', 'e'] input
  | '"' :: _ => skipString input.tail
  | c :: _ => if startsNumber c then skipNumber input else input.failAhead .valueExpected

/-- Where skipping stands: before a value, or inside the innermost open container. -/
inductive SkipState where
  | value
  | inside (opened : Bool)

/-- The input behind the value, with the open containers from the inside out; every
step takes a character or is followed by one that does. -/
def skipFrom : (fuel : Nat) → SkipState → List Container → Input → Except Mistake Input
  | 0, _, _, input => input.failAhead .endInValue
  | fuel + 1, .value, stack, input => do
    let input := input.skipSpaces
    match input.rest.head?.bind Container.opener? with
    | some container => skipFrom fuel (.inside true) (container :: stack) input.tail
    | none =>
      let input ← skipScalar input
      if stack.isEmpty then return input else skipFrom fuel (.inside false) stack input
  | _ + 1, .inside _, [], input => .ok input
  | fuel + 1, .inside opened, container :: stack, input => do
    let input := input.skipSpaces
    match input.rest with
    | [] => input.failAhead container.unclosed
    | c :: _ =>
      if c = container.closer then
        if stack.isEmpty then return input.tail else skipFrom fuel (.inside false) stack input.tail
      else if opened then skipFrom fuel .value (container :: stack) (← skipKey container input)
      else if c = ',' then skipFrom fuel .value (container :: stack) (← skipKey container input.tail)
      else input.failAhead container.commaExpected

/-- The input behind a value. -/
def skipValue (input : Input) : Except Mistake Input :=
  skipFrom (2 * input.rest.length + 2) .value [] input

end CanvasScript.Json
