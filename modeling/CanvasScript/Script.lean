import CanvasScript.Instruction.Payload
import CanvasScript.Json.Reader

/-!
# Scripts

A script is written as a JSON list of entries, objects with one key each. Its
steps keep the positions of the entries: an entry that is no instruction is a
step that is passed over.
-/

namespace CanvasScript

/-- Why a value is no entry. -/
inductive Malformed where
  | notAnObject
  | empty
  | multipleKeys
  deriving DecidableEq

namespace Malformed

def all : List Malformed := [notAnObject, empty, multipleKeys]

/-- The name of the defect in records. -/
def name : Malformed → String
  | notAnObject => "not_an_object"
  | empty => "empty"
  | multipleKeys => "multiple_keys"

def ofName? (name : String) : Option Malformed := all.find? fun defect => defect.name == name

def describe : Malformed → String
  | notAnObject => "entry is not an object"
  | empty => "entry has no key"
  | multipleKeys => "entry has more than one key"

end Malformed

/-- An entry's only key and its value. -/
def splitEntry : Json.Value → Except Malformed (String × Json.Value)
  | .object [field] => .ok field
  | .object [] => .error .empty
  | .object _ => .error .multipleKeys
  | _ => .error .notAnObject

theorem splitEntry_eq_ok_iff {entry : Json.Value} {field : String × Json.Value} :
    splitEntry entry = .ok field ↔ entry = .object [field] := by
  constructor
  · intro h
    unfold splitEntry at h
    split at h <;> simp_all
  · rintro rfl
    rfl

/-- The entries written by a text. -/
def readEntries (text : String) : Except Json.Mistake (List Json.Value) :=
  Json.wholeText Json.valueList text

/-- A step of a script. -/
inductive Step where
  | run (instruction : Instruction)
  /-- An entry that is no instruction, under its key or what is wrong with it. -/
  | skip (key : String)

/-- A script: a step for every entry. -/
structure Script where
  steps : List Step

namespace Script

/-- The step of the entry at a position. -/
def decodeStep (index : Nat) (entry : Json.Value) : Except PayloadError Step :=
  match splitEntry entry with
  | .ok (key, v) =>
    match Kind.ofKey? key with
    | some kind =>
      match Instruction.decode kind v with
      | .ok instruction => .ok (.run instruction)
      | .error cause => .error { index, kind, cause }
    | none => .ok (.skip key)
  | .error defect => .ok (.skip defect.describe)

/-- The steps of the entries from a position on, up to the first payload that
cannot be used. -/
def decodeFrom (index : Nat) : List Json.Value → Except PayloadError (List Step)
  | [] => .ok []
  | entry :: entries => do
    let step ← decodeStep index entry
    let steps ← decodeFrom (index + 1) entries
    return step :: steps

/-- The script of a list of entries. -/
def decode (entries : List Json.Value) : Except PayloadError Script := do
  return { steps := ← decodeFrom 0 entries }

/-- The script without the steps that are passed over; later steps move forward. -/
def withoutSkips (script : Script) : Script where
  steps := script.steps.filter fun
    | .run _ => true
    | .skip _ => false

end Script

end CanvasScript
