import CanvasScript.Decimal
import CanvasScript.Shortcut.Passes
import CanvasScript.Shortcut.Table
import CanvasScript.Text.Blank
import CanvasScript.Text.DecimalDigit

/-!
# Wildcards

`$name` stands for one of the options of the table's text for it, chosen by a
draw, and `$name[N]` for the option with the number `N`, from one on. A token that
names nothing, has no options or a number that fits none stays as it is.
-/

namespace CanvasScript.Shortcut

open Text (isAsciiDigit isDecimalDigit isBlank trim)

/-- A text cut at every bar. -/
def segments : List Char → List (List Char)
  | [] => [[]]
  | c :: rest =>
    if c = '|' then [] :: segments rest
    else
      match segments rest with
      | [] => [[c]]
      | segment :: more => (c :: segment) :: more

/-- The options of a text: its segments without the blanks around them, empty ones
left out. -/
def options (value : List Char) : List (List Char) :=
  ((segments value).map trim).filter fun option => !option.isEmpty

/-- A letter or digit of ASCII or an underscore. -/
def isWord (c : Char) : Bool := c.isAlphanum || c == '_'

/-- A place in a text that stands for an option. -/
structure Token where
  /-- The name with its sign. -/
  name : List Char
  /-- The digits of the option's number. -/
  number? : Option (List Char)
  deriving DecidableEq

namespace Token

/-- The token as it is written. -/
def chars (token : Token) : List Char :=
  match token.number? with
  | none => token.name
  | some digits => token.name ++ '[' :: digits ++ [']']

/-- The digits of a number in brackets that a text starts with. -/
def bracketed? : List Char → Option (List Char)
  | '[' :: rest =>
    let digits := rest.takeWhile isDecimalDigit
    if !digits.isEmpty && (rest.drop digits.length).head? == some ']' then some digits else none
  | _ => none

/-- The token that a text starts with: the longest name, and a number if one follows. -/
def ofText? : List Char → Option Token
  | '$' :: rest =>
    let name := rest.takeWhile isWord
    if name.isEmpty then none
    else some { name := '$' :: name, number? := bracketed? (rest.drop name.length) }
  | _ => none

/-- The number of the option; digits of other scripts make none. -/
def index? (digits : List Char) : Option Nat :=
  if digits.all isAsciiDigit then some (Decimal.ofDigits digits) else none

/-- The option with a number, from one on. -/
def numbered? (options : List (List Char)) (digits : List Char) : Option (List Char) := do
  let n ← index? digits
  if n = 0 then none else options[n - 1]?

/-- The options of a token's name. -/
def optionsIn (token : Token) (table : Table) : List (List Char) :=
  match table.get? (String.ofList token.name) with
  | some value => options value.toList
  | none => []

/-- What a token stands for; only a token without a number uses draws. -/
def pick (table : Table) (token : Token) (d : Draws) : List Char × Draws :=
  let options := token.optionsIn table
  if options.isEmpty then (token.chars, d)
  else
    match token.number? with
    | some digits => ((numbered? options digits).getD token.chars, d)
    | none =>
      let (i, d) := Draws.below options.length d.patience d
      (options.getD i token.chars, d)

end Token

/-- A text, behind its first `skip` characters, with what its tokens stand for. -/
def expandFrom (table : Table) : (skip : Nat) → List Char → Draws → List Char × Draws
  | _, [], d => ([], d)
  | skip + 1, _ :: rest, d => expandFrom table skip rest d
  | 0, c :: rest, d =>
    match Token.ofText? (c :: rest) with
    | none =>
      let (text, d) := expandFrom table 0 rest d
      (c :: text, d)
    | some token =>
      let (chosen, d) := token.pick table d
      let (text, d) := expandFrom table (token.chars.length - 1) rest d
      (chosen ++ text, d)

/-- Where no token starts the character stays. -/
theorem expandFrom_of_none {table : Table} {c : Char} {rest : List Char}
    (read : Token.ofText? (c :: rest) = none) (d : Draws) :
    expandFrom table 0 (c :: rest) d =
      (c :: (expandFrom table 0 rest d).1, (expandFrom table 0 rest d).2) := by
  simp only [expandFrom, read]

/-- A token is picked first, and what stands behind it is expanded with the draws left. -/
theorem expandFrom_of_token {table : Table} {c : Char} {rest : List Char} {token : Token}
    (read : Token.ofText? (c :: rest) = some token) (d : Draws) :
    expandFrom table 0 (c :: rest) d =
      ((token.pick table d).1 ++ (expandFrom table (token.chars.length - 1) rest (token.pick table d).2).1,
        (expandFrom table (token.chars.length - 1) rest (token.pick table d).2).2) := by
  simp only [expandFrom, read]

/-- A pass over a text. -/
def expandPass (table : Table) (text : List Char) : Resolving (List Char) :=
  .ofState (expandFrom table 0 text)

/-- The text in which no token is left that a pass would change. -/
def expand (limit : Limit) (table : Table) (text : List Char) : Resolving (List Char) :=
  limit.settle (expandPass table) text

end CanvasScript.Shortcut
