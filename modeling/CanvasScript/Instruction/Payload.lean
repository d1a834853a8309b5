import CanvasScript.Instruction
import CanvasScript.Json.Record

/-!
# Payloads

An entry's value is its instruction's payload. `Instruction.decode` reads the
payload that a kind asks for; the instruction it gives is of that kind
(`kind_of_decode`).
-/

namespace CanvasScript

/-- Why a value cannot be used as a payload. -/
inductive PayloadCause where
  /-- The value is not of the expected type. -/
  | notA (expected : String) (actual : String)
  /-- The value is no slot of the moodboard. -/
  | notASlot
  /-- The weight of a slot is no number. -/
  | notAWeight (slot : Nat)
  | record (cause : Json.Cause)

def PayloadCause.message : PayloadCause → String
  | notA expected actual => s!"expected {expected}, got {actual}"
  | notASlot => "expected a non-negative moodboard index"
  | notAWeight slot => s!"index_{slot} is not a number"
  | record cause => cause.message

namespace Payload

open Json

abbrev Result (α : Type) := Except PayloadCause α

/-- Any value will do. -/
def nothing (_ : Value) : Result Unit := .ok ()

def text (v : Value) : Result String :=
  match v with
  | .string s => .ok s
  | _ => .error (.notA "string" v.typeName)

def object (v : Value) : Result Fields :=
  match v with
  | .object fields => .ok fields
  | _ => .error (.notA "object" v.typeName)

def number (v : Value) : Result Value :=
  match v with
  | .int _ | .float _ => .ok v
  | _ => .error (.notA "number" v.typeName)

/-- The greatest slot that a floating-point number may give. -/
def slotLimit : Nat := 4294967295

/-- A slot of the moodboard: an integer that is not negative, or a floating-point
number without a fraction up to the limit. -/
def slot (v : Value) : Result Nat :=
  match v with
  | .int n => if 0 ≤ n then .ok n.toNat else .error .notASlot
  | .float x =>
    if Binary64.zero.le x && x.isWhole && x.le (Binary64.ofNat slotLimit) then .ok x.truncated.toNat
    else .error .notASlot
  | _ => .error .notASlot

/-- How many slots of the moodboard have a weight. -/
def weightedSlots : Nat := 12

/-- The field with the weight of a slot. -/
def weightKey (slot : Nat) : String := s!"index_{slot}"

/-- The weight of a slot, if it is given. -/
def weight? (fields : Fields) (slot : Nat) : Result (Option (Nat × Binary64)) :=
  match fields.get? (weightKey slot) with
  | none => .ok none
  | some v =>
    match v.number? with
    | some x => .ok (some (slot, x))
    | none => .error (.notAWeight slot)

/-- The weights of the slots that have one, in the order of the slots. -/
def weights (v : Value) : Result (List (Nat × Binary64)) := do
  let fields ← object v
  let given ← (List.range weightedSlots).mapM (weight? fields)
  return given.filterMap id

/-- The fields of a record, made into what it stands for. -/
def record (type : RecordType) (make : List FieldValue → α) (v : Value) : Result α :=
  match type.read v with
  | .ok held => .ok (make held)
  | .error cause => .error (.record cause)

/-- The number of a field that holds one. -/
def heldNumber : FieldValue → Binary64
  | .number x => x
  | _ => .zero

/-- The number of a field that may hold one. -/
def heldNumber? : FieldValue → Option Binary64
  | .number x => some x
  | _ => none

/-- The flag of a field that holds one. -/
def heldFlag : FieldValue → Bool
  | .flag b => b
  | _ => false

/-- The value of the field at a position. -/
def held (fields : List FieldValue) (position : Nat) : FieldValue := fields.getD position .absent

def moveScaleType : RecordType where
  name := "MoveScale"
  fields := [("position_X", .number), ("position_Y", .number), ("canvas_scale", .number)]

def moveScale : Value → Result MoveScale :=
  record moveScaleType fun fields =>
    { x := heldNumber (held fields 0), y := heldNumber (held fields 1), scale := heldNumber (held fields 2) }

def sizeLimitsType : RecordType where
  name := "AdaptSize"
  fields := [("maxWidth", .number), ("maxHeight", .number)]

def sizeLimits : Value → Result SizeLimits :=
  record sizeLimitsType fun fields =>
    { width := heldNumber (held fields 0), height := heldNumber (held fields 1) }

def latentTiersType : RecordType where
  name := "XlTiers"
  fields := [("original", .number), ("target", .number), ("negative", .number)]

def latentTiers : Value → Result LatentTiers :=
  record latentTiersType fun fields =>
    { source := heldNumber (held fields 0), target := heldNumber (held fields 1)
      negative := heldNumber (held fields 2) }

def loopSpecType : RecordType where
  name := "LoopSpec"
  fields := [("loop", .optionalNumber), ("start", .optionalNumber)]

def loopSpec : Value → Result LoopSpec :=
  record loopSpecType fun fields =>
    { count := heldNumber? (held fields 0), start := heldNumber? (held fields 1) }

def bodyMaskType : RecordType where
  name := "BodyMaskSpec"
  fields :=
    [("upper", .flag), ("lower", .flag), ("clothes", .flag), ("neck", .flag), ("extra", .optionalNumber)]

/-- A value that is no object covers nothing. -/
def bodyMask (v : Value) : Result BodyMask :=
  match v with
  | .object _ =>
    record bodyMaskType (fun fields =>
      { upper := heldFlag (held fields 0), lower := heldFlag (held fields 1)
        clothes := heldFlag (held fields 2), neck := heldFlag (held fields 3)
        extra := heldNumber? (held fields 4) }) v
  | _ => .ok .none

end Payload

/-- The instruction of a kind with the payload read from a value. -/
def Instruction.decode (kind : Kind) (v : Json.Value) : Except PayloadCause Instruction :=
  match kind with
  | .note => (fun _ => .note) <$> Payload.nothing v
  | .prompt => .prompt <$> Payload.text v
  | .negativePrompt => .negativePrompt <$> Payload.text v
  | .config => .config <$> Payload.object v
  | .frames => .frames <$> Payload.number v
  | .faceZoom => (fun _ => .faceZoom) <$> Payload.nothing v
  | .askZoom => .askZoom <$> Payload.text v
  | .removeBackground => (fun _ => .removeBackground) <$> Payload.nothing v
  | .canvasClear => (fun _ => .canvasClear) <$> Payload.nothing v
  | .canvasSave => .canvasSave <$> Payload.text v
  | .canvasLoad => .canvasLoad <$> Payload.text v
  | .moveScale => .moveScale <$> Payload.moveScale v
  | .adaptSize => .adaptSize <$> Payload.sizeLimits v
  | .crop => (fun _ => .crop) <$> Payload.nothing v
  | .moodboardClear => (fun _ => .moodboardClear) <$> Payload.nothing v
  | .moodboardCanvas => (fun _ => .moodboardCanvas) <$> Payload.nothing v
  | .moodboardLoad => (fun _ => .moodboardLoad) <$> Payload.nothing v
  | .moodboardAdd => .moodboardAdd <$> Payload.text v
  | .loopAddMoodboard => .loopAddMoodboard <$> Payload.text v
  | .moodboardRemove => .moodboardRemove <$> Payload.slot v
  | .moodboardWeights => .moodboardWeights <$> Payload.weights v
  | .maskClear => (fun _ => .maskClear) <$> Payload.nothing v
  | .maskLoad => .maskLoad <$> Payload.text v
  | .maskGet => (fun _ => .maskGet) <$> Payload.nothing v
  | .maskBackground => (fun _ => .maskBackground) <$> Payload.nothing v
  | .maskForeground => (fun _ => .maskForeground) <$> Payload.nothing v
  | .maskBody => .maskBody <$> Payload.bodyMask v
  | .maskAsk => .maskAsk <$> Payload.text v
  | .depthExtract => (fun _ => .depthExtract) <$> Payload.nothing v
  | .depthCanvas => (fun _ => .depthCanvas) <$> Payload.nothing v
  | .depthToCanvas => (fun _ => .depthToCanvas) <$> Payload.nothing v
  | .inpaintTools => .inpaintTools <$> Payload.object v
  | .latentSizes => .latentSizes <$> Payload.latentTiers v
  | .poseExtract => (fun _ => .poseExtract) <$> Payload.nothing v
  | .poseJson => .poseJson <$> Payload.object v
  | .poseClear => (fun _ => .poseClear) <$> Payload.nothing v
  | .loop => .loop <$> Payload.loopSpec v
  | .loopLoad => .loopLoad <$> Payload.text v
  | .loopSave => .loopSave <$> Payload.text v
  | .loopEnd => (fun _ => .loopEnd) <$> Payload.nothing v
  | .finish => (fun _ => .finish) <$> Payload.nothing v

/-- What a constructor makes of a result is of the kind of the constructor. -/
theorem kind_of_map {make : α → Instruction} {kind : Kind} (h : ∀ a, (make a).kind = kind)
    {result : Except PayloadCause α} {instruction : Instruction}
    (ok : make <$> result = .ok instruction) : instruction.kind = kind := by
  cases result with
  | error cause => cases ok
  | ok a =>
    cases ok
    exact h a

/-- An instruction is of the kind it was decoded for. -/
theorem kind_of_decode {kind : Kind} {v : Json.Value} {instruction : Instruction}
    (h : Instruction.decode kind v = .ok instruction) : instruction.kind = kind := by
  cases kind <;> simp only [Instruction.decode] at h <;> exact kind_of_map (by intro _; rfl) h

/-- A payload that cannot be used, and where it stands. -/
structure PayloadError where
  index : Nat
  kind : Kind
  cause : PayloadCause

def PayloadError.message (e : PayloadError) : String :=
  s!"Item {e.index}: \"{e.kind.key}\" has an unusable value: {e.cause.message}"

end CanvasScript
