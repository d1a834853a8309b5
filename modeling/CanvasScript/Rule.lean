import CanvasScript.Violation

/-!
# Rules

A rule looks at one entry, its key, the kind named by the key and its value, and
may object. Rules are asked in the order of `Rule.all`; the first that objects
says what is wrong with the entry.
-/

namespace CanvasScript

/-- The rules for single entries. -/
inductive Rule where
  | knownKey
  | valueType
  | pathExtension
  | payload
  deriving DecidableEq

namespace Rule

/-- Every rule, in the order in which they are asked. -/
def all : List Rule := [knownKey, valueType, pathExtension, payload]

def name : Rule → String
  | knownKey => "known_key"
  | valueType => "value_type"
  | pathExtension => "path_extension"
  | payload => "payload"

end Rule

/-- A value is of the type that a shape asks for; null is no object. -/
def Shape.fits : Shape → Json.Value → Bool
  | flag, _ => true
  | string, .string _ | path _, .string _ => true
  | number, .int _ | number, .float _ => true
  | object, .object _ => true
  | _, _ => false

/-- A path ends in a point and the extension; the case of letters does not matter. -/
def hasExtension (path extension : String) : Bool :=
  ('.' :: extension.toList).isSuffixOf (path.toList.map Char.toLower)

/-- The objection of a rule to an entry. -/
def Rule.check (rule : Rule) (index : Nat) (key : String) (kind? : Option Kind) (v : Json.Value) :
    Option Violation :=
  match rule, kind? with
  | knownKey, none => some (.unknownKey index key)
  | knownKey, some _ => none
  | valueType, some kind =>
    if kind.shape.fits v then none
    else some (.wrongType index kind kind.shape.typeName v.typeName)
  | pathExtension, some kind =>
    match kind.shape, v with
    | .path allowed, .string path =>
      if allowed.any (hasExtension path) then none else some (.wrongExtension index kind allowed path)
    | _, _ => none
  | payload, some kind =>
    match Instruction.decode kind v with
    | .ok _ => none
    | .error cause => some (.unusablePayload index kind cause.message)
  | _, none => none

/-- The first objection to an entry with one key. -/
def Rule.firstObjection (index : Nat) (key : String) (v : Json.Value) : Option Violation :=
  Rule.all.findSome? fun rule => rule.check index key (Kind.ofKey? key) v

end CanvasScript
