import CanvasScript.Json.Number.Layout
import CanvasScript.Json.Value

/-!
# Writing JSON values

Fields are written in the order of their list. `compact` leaves out every blank;
`pretty` gives each element a line of its own, indented by two blanks for every
container around it. `canonical` sorts the fields of every object, so that values
with the same fields have the same compact text.
-/

namespace CanvasScript.Json

/-- A hexadecimal digit in lower case. -/
def hexDigit (n : Nat) : Char := Nat.digitChar (n % 16)

/-- A character inside a string: quotes, backslashes and controls are escaped. -/
def escaped (c : Char) : List Char :=
  if c = '"' then ['\\', '"']
  else if c = '\\' then ['\\', '\\']
  else if c = '\x08' then ['\\', 'b']
  else if c = '\x0c' then ['\\', 'f']
  else if c = '\n' then ['\\', 'n']
  else if c = '\r' then ['\\', 'r']
  else if c = '\t' then ['\\', 't']
  else if c.toNat < 0x20 then ['\\', 'u', '0', '0', hexDigit (c.toNat / 16), hexDigit c.toNat]
  else [c]

/-- A string in quotes. -/
def stringChars (s : String) : List Char := '"' :: s.toList.flatMap escaped ++ ['"']

def boolChars (b : Bool) : List Char := if b then ['t', 'r', 'u', 'e'] else ['f', 'a', 'l', 's', 'e']

mutual

/-- A value without blanks. -/
def compactChars : Value → List Char
  | .null => ['n', 'u', 'l', 'l']
  | .bool b => boolChars b
  | .int n => intChars n
  | .float x => floatChars x
  | .string s => stringChars s
  | .array items => '[' :: compactItems items
  | .object fields => '\x7b' :: compactFields fields

/-- The elements of a list and its closing bracket. -/
def compactItems : List Value → List Char
  | [] => [']']
  | [v] => compactChars v ++ [']']
  | v :: rest => compactChars v ++ ',' :: compactItems rest

/-- The fields of an object and its closing brace. -/
def compactFields : List (String × Value) → List Char
  | [] => ['\x7d']
  | [(key, v)] => stringChars key ++ ':' :: compactChars v ++ ['\x7d']
  | (key, v) :: rest => stringChars key ++ ':' :: compactChars v ++ ',' :: compactFields rest

end

/-- A new line inside `depth` containers. -/
def newLine (depth : Nat) : List Char := '\n' :: List.replicate (2 * depth) ' '

mutual

/-- A value inside `depth` containers, an element a line. -/
def prettyChars (depth : Nat) : Value → List Char
  | .null => ['n', 'u', 'l', 'l']
  | .bool b => boolChars b
  | .int n => intChars n
  | .float x => floatChars x
  | .string s => stringChars s
  | .array [] => ['[', ']']
  | .array (v :: items) => '[' :: prettyItems (depth + 1) (v :: items) ++ newLine depth ++ [']']
  | .object [] => ['\x7b', '\x7d']
  | .object (field :: fields) =>
    '\x7b' :: prettyFields (depth + 1) (field :: fields) ++ newLine depth ++ ['\x7d']

/-- The elements of a list, each on a line. -/
def prettyItems (depth : Nat) : List Value → List Char
  | [] => []
  | [v] => newLine depth ++ prettyChars depth v
  | v :: rest => newLine depth ++ prettyChars depth v ++ ',' :: prettyItems depth rest

/-- The fields of an object, each on a line. -/
def prettyFields (depth : Nat) : List (String × Value) → List Char
  | [] => []
  | [(key, v)] => newLine depth ++ stringChars key ++ ':' :: ' ' :: prettyChars depth v
  | (key, v) :: rest =>
    newLine depth ++ stringChars key ++ ':' :: ' ' :: prettyChars depth v ++ ',' :: prettyFields depth rest

end

mutual

/-- The value with the fields of every object sorted, one for each key. -/
def Value.canonical : Value → Value
  | .array items => .array (canonicalItems items)
  | .object fields => .object (Fields.ofList (canonicalFields fields))
  | v => v

/-- The elements of a list with their fields sorted. -/
def Value.canonicalItems : List Value → List Value
  | [] => []
  | v :: rest => v.canonical :: Value.canonicalItems rest

/-- The fields of an object, those of their values sorted. -/
def Value.canonicalFields : List (String × Value) → List (String × Value)
  | [] => []
  | (key, v) :: rest => (key, v.canonical) :: Value.canonicalFields rest

end

/-- A value as a text without blanks. -/
def Value.compact (v : Value) : String := String.ofList (compactChars v)

/-- A value as a text with an element a line. -/
def Value.pretty (v : Value) : String := String.ofList (prettyChars 0 v)

end CanvasScript.Json
