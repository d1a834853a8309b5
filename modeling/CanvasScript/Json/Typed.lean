import CanvasScript.Json.Skip

/-!
# Reading a text straight into a type

Readers that ask for one type of value. A record takes its fields by name from an
object or in their order from a list; fields it does not know are passed over,
and those left out keep the value they start with.
-/

namespace CanvasScript.Json

/-- A string. -/
def text : Reader String := fun input =>
  let input := input.skipSpaces
  match input.rest with
  | [] => input.failAhead .endInValue
  | '"' :: _ => string input.tail
  | _ => wrongType "a string" input

/-- A natural number below `2 ^ 64`, called `name` when something else is found. -/
def natural (name : String) : Reader Nat := fun input => do
  let input := input.skipSpaces
  match input.rest with
  | [] => input.failAhead .endInValue
  | c :: _ =>
    if startsNumber c then
      let (v, input) ← number input
      match v with
      | .int n => if 0 ≤ n then return (n.toNat, input) else input.failHere (.wrongValue (.int n) name)
      | _ => input.failHere (.wrongType (Found.ofValue v) name)
    else wrongType name input

/-- A value or null. -/
def optional (reader : Reader α) : Reader (Option α) := fun input => do
  let input := input.skipSpaces
  if input.startsWith ['n'] then return (none, ← word ['n', 'u', 'l', 'l'] input)
  else
    let (a, input) ← reader input
    return (some a, input)

/-- An object as its pairs in the order of the text. -/
def pairs (element : Reader α) (expected : String) : Reader (List (String × α)) := fun input =>
  let input := input.skipSpaces
  match input.rest with
  | [] => input.failAhead .endInValue
  | '\x7b' :: _ => object element input
  | _ => wrongType expected input

/-- A field of a record: its name and how its value changes the record. -/
structure Field (ρ : Type) where
  name : String
  read : ρ → Reader ρ

/-- A field that `set` puts into the record. -/
def Field.of (name : String) (reader : Reader α) (set : ρ → α → ρ) : Field ρ where
  name
  read r input := do
    let (a, input) ← reader input
    return (set r a, input)

/-- Where the object of a repeated field ends, or its key does. -/
def endOfRepeated (input : Input) : Place :=
  let input := input.skipSpaces
  if input.startsWith ['\x7d'] then input.tail.place else input.place

/-- The fields of a record up to the closing brace, `other` reading those that it
does not know. -/
def namedFields (fields : List (Field ρ)) (other : String → ρ → Reader ρ) :
    (fuel : Nat) → (seen : List String) → ρ → Reader ρ
  | 0, _, _, input => input.failAhead .endInObject
  | fuel + 1, seen, r, input => do
    let (more, input) ← nextMember seen.isEmpty input
    if more then
      let (key, input) ← string input.tail
      match fields.find? fun field => field.name == key with
      | some field =>
        if seen.contains key then .error ((Cause.duplicateField key).at (endOfRepeated input))
        else
          let (r, input) ← field.read r (← colon input)
          namedFields fields other fuel (key :: seen) r input
      | none =>
        let (r, input) ← other key r (← colon input)
        namedFields fields other fuel (key :: seen) r input
    else return (r, input)

/-- The fields of a record in their order, as far as the list goes. -/
def orderedFields : (fields : List (Field ρ)) → (first : Bool) → ρ → Reader ρ
  | [], _, r, input => .ok (r, input)
  | field :: fields, first, r, input => do
    let (more, input) ← nextItem first input
    if more then
      let (r, input) ← field.read r input
      orderedFields fields false r input
    else return (r, input)

/-- A field that a record does not know is passed over. -/
def passOver (_key : String) (r : ρ) : Reader ρ := fun input => do return (r, ← skipValue input)

/-- A record that starts as `start`. -/
def record (expected : String) (fields : List (Field ρ)) (start : ρ) : Reader ρ := fun input => do
  let input := input.skipSpaces
  match input.rest with
  | [] => input.failAhead .endInValue
  | '[' :: _ =>
    let (r, input) ← orderedFields fields true start input.tail
    return (r, ← endList input)
  | '\x7b' :: _ =>
    let (r, input) ← namedFields fields passOver input.rest.length [] start input.tail
    return (r, ← endObject input)
  | _ => wrongType expected input

end CanvasScript.Json
