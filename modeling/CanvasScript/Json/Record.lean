import CanvasScript.Json.Mistake

/-!
# Records in values

A record is read from an object by name or from a list in the order of its
fields. The fields of an object are judged in the order of their keys and the
first bad one is reported; a field that is missing and has no value to fall back
on is reported after that, the first of them in the record's own order.
-/

namespace CanvasScript.Json

/-- What a field of a record may hold. -/
inductive FieldType where
  | number
  | optionalNumber
  | flag
  deriving DecidableEq

/-- What a field of a record holds. -/
inductive FieldValue where
  | number (x : Binary64)
  | absent
  | flag (b : Bool)
  deriving DecidableEq

namespace FieldType

def expected : FieldType → String
  | number | optionalNumber => "f64"
  | flag => "a boolean"

/-- The value of a field that is given. -/
def read (type : FieldType) (v : Value) : Except Cause FieldValue :=
  match type, v with
  | optionalNumber, .null => .ok .absent
  | flag, .bool b => .ok (.flag b)
  | flag, _ => .error (.wrongType (Found.ofValue v) type.expected)
  | _, _ =>
    match v.number? with
    | some x => .ok (.number x)
    | none => .error (.wrongType (Found.ofValue v) type.expected)

/-- The value of a field that is left out. -/
def fallback? : FieldType → Option FieldValue
  | number => none
  | optionalNumber => some .absent
  | flag => some (.flag false)

end FieldType

/-- A type of record: its name and its fields in order. -/
structure RecordType where
  name : String
  fields : List (String × FieldType)

namespace RecordType

/-- How many fields, as said when a list is too short. -/
def lengthText (type : RecordType) : String :=
  let count := type.fields.length
  s!"struct {type.name} with {count} element" ++ (if count = 1 then "" else "s")

/-- The first field of an object that is known and bad, in the order of the keys. -/
def judge (type : RecordType) (fields : Fields) : Except Cause Unit :=
  fields.forM fun (key, v) =>
    match type.fields.find? fun field => field.1 == key with
    | some (_, fieldType) => (fieldType.read v).map fun _ => ()
    | none => .ok ()

/-- The value of a field of an object. -/
def readField (fields : Fields) (name : String) (type : FieldType) : Except Cause FieldValue :=
  match Fields.get? name fields with
  | some v => type.read v
  | none =>
    match type.fallback? with
    | some held => .ok held
    | none => .error (.missingField name)

/-- The values of the fields from an object. -/
def ofFields (type : RecordType) (fields : Fields) : Except Cause (List FieldValue) := do
  type.judge fields
  type.fields.mapM fun (name, fieldType) => readField fields name fieldType

/-- The values of the fields from the elements of a list, `read` of them being
read already. -/
def ofItems (type : RecordType) :
    (read : Nat) → List (String × FieldType) → List Value → Except Cause (List FieldValue × List Value)
  | _, [], items => .ok ([], items)
  | read, (_, fieldType) :: fields, [] => do
    match fieldType.fallback? with
    | some held =>
      let (rest, left) ← type.ofItems (read + 1) fields []
      return (held :: rest, left)
    | none => .error (.wrongLength read type.lengthText)
  | read, (_, fieldType) :: fields, v :: items => do
    let held ← fieldType.read v
    let (rest, left) ← type.ofItems (read + 1) fields items
    return (held :: rest, left)

/-- The values of the fields of a record, in its own order. -/
def read (type : RecordType) (v : Value) : Except Cause (List FieldValue) :=
  match v with
  | .object fields => type.ofFields fields
  | .array items => do
    let (held, left) ← type.ofItems 0 type.fields items
    if left.isEmpty then return held
    else .error (.wrongLength items.length "fewer elements in array")
  | _ => .error (.wrongType (Found.ofValue v) s!"struct {type.name}")

end RecordType

end CanvasScript.Json
