import CanvasScript.Json.Tagged
import CanvasScript.Violation

/-!
# Violations as records

A violation is written as an object: the field `violation` names what is wrong
and its details follow. The details are read by name in any order, or from a list
in their own order; fields that a violation does not have are passed over.
-/

namespace CanvasScript.Violation

open Json

def ofNat (n : Nat) : Value := .int n

/-- The field that names what is wrong. -/
def tagKey : String := "violation"

/-- The fields of the object of a violation. -/
def toFields : Violation → Fields
  | malformedText message => [(tagKey, .string "malformed_json"), ("message", .string message)]
  | malformedEntry index defect =>
    [(tagKey, .string "malformed_instruction"), ("index", ofNat index), ("shape", .string defect.name)]
  | unknownKey index key => [(tagKey, .string "unknown_key"), ("index", ofNat index), ("kind", .string key)]
  | wrongType index kind expected actual =>
    [(tagKey, .string "type_mismatch"), ("index", ofNat index), ("kind", .string kind.key),
      ("expected", .string expected), ("actual", .string actual)]
  | wrongExtension index kind allowed actual =>
    [(tagKey, .string "path_extension"), ("index", ofNat index), ("kind", .string kind.key),
      ("allowed", .array (allowed.map .string)), ("actual", .string actual)]
  | unusablePayload index kind message =>
    [(tagKey, .string "invalid_payload"), ("index", ofNat index), ("kind", .string kind.key),
      ("message", .string message)]

def toJson (v : Violation) : Value := .object v.toFields

/-- What a detail of a violation is. -/
inductive DetailType where
  | index
  | text
  | texts
  | kind
  | defect
  deriving DecidableEq

/-- A detail that has been read. -/
inductive Detail where
  | index (n : Nat)
  | text (s : String)
  | texts (ss : List String)
  | kind (kind : Kind)
  | defect (defect : Malformed)
  deriving DecidableEq

def readText : Value → Except Cause String
  | .string s => .ok s
  | v => .error (.wrongType (Found.ofValue v) "a string")

/-- What stands where there is nothing to say: null or an object without fields. -/
def readNothing : Value → Except Cause Unit
  | .null | .object [] => .ok ()
  | v => .error (.wrongType (Found.ofValue v) "unit")

/-- What one of several names stands for. -/
def named (ofName? : String → Option α) (names : List String) (name : String) : Except Cause α :=
  match ofName? name with
  | some a => .ok a
  | none => .error (.unknownVariant name names)

/-- One of several names, as a text or as the only key of an object with nothing under it. -/
def readName (ofName? : String → Option α) (names : List String) : Value → Except Cause α
  | .string name => named ofName? names name
  | .object [(name, v)] => do
    let a ← named ofName? names name
    readNothing v
    return a
  | .object _ => .error (.wrongValue .map "map with a single key")
  | v => .error (.wrongType (Found.ofValue v) "string or map")

/-- A detail from its value. -/
def DetailType.read (type : DetailType) (v : Value) : Except Cause Detail :=
  match type with
  | index =>
    match v with
    | .int n => if 0 ≤ n then .ok (.index n.toNat) else .error (.wrongValue (.int n) "usize")
    | v => .error (.wrongType (Found.ofValue v) "usize")
  | text => .text <$> readText v
  | texts =>
    match v with
    | .array items => .texts <$> items.mapM readText
    | v => .error (.wrongType (Found.ofValue v) "a sequence")
  | kind => .kind <$> readName Kind.ofKey? (Kind.all.map Kind.key) v
  | defect => .defect <$> readName Malformed.ofName? (Malformed.all.map Malformed.name) v

/-- One of the things that can be wrong: its tag, its name in complaints, its
details in order, and the violation that they make. -/
structure Variant where
  tag : String
  title : String
  details : List (String × DetailType)
  build : List Detail → Option Violation

/-- Everything that can be wrong. -/
def variants : List Variant :=
  [{ tag := "malformed_json", title := "MalformedJson", details := [("message", .text)]
     build := fun
       | [.text message] => some (malformedText message)
       | _ => none },
    { tag := "malformed_instruction", title := "MalformedInstruction"
      details := [("index", .index), ("shape", .defect)]
      build := fun
        | [.index index, .defect defect] => some (malformedEntry index defect)
        | _ => none },
    { tag := "unknown_key", title := "UnknownKey", details := [("index", .index), ("kind", .text)]
      build := fun
        | [.index index, .text key] => some (unknownKey index key)
        | _ => none },
    { tag := "type_mismatch", title := "TypeMismatch"
      details := [("index", .index), ("kind", .kind), ("expected", .text), ("actual", .text)]
      build := fun
        | [.index index, .kind kind, .text expected, .text actual] => some (wrongType index kind expected actual)
        | _ => none },
    { tag := "path_extension", title := "PathExtension"
      details := [("index", .index), ("kind", .kind), ("allowed", .texts), ("actual", .text)]
      build := fun
        | [.index index, .kind kind, .texts allowed, .text actual] => some (wrongExtension index kind allowed actual)
        | _ => none },
    { tag := "invalid_payload", title := "InvalidPayload"
      details := [("index", .index), ("kind", .kind), ("message", .text)]
      build := fun
        | [.index index, .kind kind, .text message] => some (unusablePayload index kind message)
        | _ => none }]

def tags : List String := variants.map Variant.tag

namespace Variant

/-- How many details, as said of a list that is too short or too long. -/
def countText (variant : Variant) : String :=
  let count := variant.details.length
  s!"{count} element" ++ (if count = 1 then "" else "s")

/-- Every field that is a detail can be read and stands there once, in the order of the fields. -/
def judge (variant : Variant) : (seen : List String) → List (String × Value) → Except Cause Unit
  | _, [] => .ok ()
  | seen, (key, v) :: rest =>
    match variant.details.lookup key with
    | none => variant.judge seen rest
    | some type =>
      if seen.contains key then .error (.duplicateField key)
      else do
        let _ ← type.read v
        variant.judge (key :: seen) rest

/-- The details from fields. -/
def ofFields (variant : Variant) (fields : List (String × Value)) : Except Cause (List Detail) := do
  variant.judge [] fields
  variant.details.mapM fun (name, type) =>
    match fields.lookup name with
    | some v => type.read v
    | none => .error (.missingField name)

/-- The details from the elements of a list, `read` of them being read already. -/
def ofItems (variant : Variant) :
    (read : Nat) → List (String × DetailType) → List Value → Except Cause (List Detail)
  | _, [], [] => .ok []
  | read, [], items => .error (.wrongLength (read + items.length) (variant.countText ++ " in sequence"))
  | read, _ :: _, [] =>
    .error (.wrongLength read
      (s!"struct variant SchemaViolation::{variant.title} with " ++ variant.countText))
  | read, (_, type) :: details, v :: items => do
    let detail ← type.read v
    return detail :: (← variant.ofItems (read + 1) details items)

/-- The details from what stands beside the tag. -/
def read (variant : Variant) : Content → Except Cause (List Detail)
  | .fields fields => variant.ofFields fields
  | .items items => variant.ofItems 0 variant.details items

end Variant

/-- The violation of a tag and what stands beside it. -/
def ofContent (tag : String) (content : Content) : Except Cause Violation :=
  match variants.find? fun variant => variant.tag == tag with
  | none => .error (.unknownVariant tag tags)
  | some variant => do
    match variant.build (← variant.read content) with
    | some violation => return violation
    | none => .error (.missingField tagKey)

/-- The violation written by the fields of an object, in any order. -/
def ofFields (fields : Fields) : Except Cause Violation :=
  match fields.lookup tagKey with
  | some (.string tag) => ofContent tag (.fields (fields.filter fun field => field.1 != tagKey))
  | some v => .error (.wrongType (Found.ofValue v) "variant identifier")
  | none => .error (.missingField tagKey)

/-- How the tag of a violation is read. -/
def tag : Tag where
  key := tagKey
  known := tags
  expected := "internally tagged enum SchemaViolation"

/-- A violation; what is wrong with its details has no place in the text. -/
def reader : Reader Violation := fun input => do
  let ((name, content), input) ← tag.read input
  match ofContent name content with
  | .ok violation => return (violation, input)
  | .error cause => .error { cause }

/-- The violation written by a text. -/
def ofText (text : String) : Except Mistake Violation := wholeText reader text

end CanvasScript.Violation
