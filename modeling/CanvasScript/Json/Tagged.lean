import CanvasScript.Json.Typed

/-!
# Tagged objects

An object of one of several variants names its variant in a field, the tag. The
tag may stand anywhere among the other fields, which are kept in the order of the
text; a list has the tag as its first element.
-/

namespace CanvasScript.Json

/-- What stands beside a tag. -/
inductive Content where
  | fields (fields : List (String × Value))
  | items (items : List Value)

/-- How the tags of objects are read. -/
structure Tag where
  /-- The field of the tag. -/
  key : String
  /-- The tags that there are. -/
  known : List String
  /-- What is expected in place of anything else. -/
  expected : String

namespace Tag

/-- A tag that is known. -/
def name (tag : Tag) : Reader String := fun input => do
  let input := input.skipSpaces
  match input.rest with
  | [] => input.failAhead .endInValue
  | '"' :: _ =>
    let (name, input) ← string input.tail
    if tag.known.contains name then return (name, input)
    else input.failHere (.unknownVariant name tag.known)
  | _ => wrongType "variant identifier" input

/-- The tag met so far and the fields beside it, the last one first. -/
abbrev Gathered := Option String × List (String × Value)

def field (tag : Tag) : Field Gathered := .of tag.key tag.name fun (_, fields) name => (some name, fields)

/-- A value inside an object or list. -/
def inner : Reader Value := valueAsWritten (nestingLimit - 1)

/-- A field beside the tag. -/
def beside (key : String) (gathered : Gathered) : Reader Gathered := fun input => do
  let (v, input) ← inner input
  return ((gathered.1, (key, v) :: gathered.2), input)

/-- The tag of an object or list and what stands beside it. -/
def read (tag : Tag) : Reader (String × Content) := fun input => do
  let input := input.skipSpaces
  match input.rest with
  | [] => input.failAhead .endInValue
  | '[' :: _ =>
    let (more, start) ← nextItem true input.tail
    if more then
      let (name, rest) ← tag.name start
      let (read, rest) ← items inner rest.rest.length false [] rest
      return ((name, .items read), ← endList rest)
    else (← endList start).failHere (.missingField tag.key)
  | '\x7b' :: _ =>
    let ((name?, fields), rest) ← namedFields [tag.field] beside input.rest.length [] (none, []) input.tail
    let rest ← endObject rest
    match name? with
    | some name => return ((name, .fields fields.reverse), rest)
    | none => rest.failHere (.missingField tag.key)
  | _ => wrongType tag.expected input

end Tag

end CanvasScript.Json
