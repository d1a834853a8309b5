import CanvasScript.Preflight
import CanvasScript.Proofs.Script.Decoding
import CanvasScript.Proofs.Run.Touches
import Mathlib.Data.List.Forall2

/-!
# Files that a script names

A preflight lists the files that the entries of a script name. What it lists of an entry
is what the step names that the entry is decoded to (`Preflight.fileUse?_of_writtenAs`), so
the list can be told from the steps (`Preflight.mem_filesFrom`).
-/

namespace CanvasScript

open Json (Value)

/-- An instruction of a kind that names no file names none. -/
theorem Instruction.path?_eq_none {instruction : Instruction} (h : instruction.kind.direction? = none) :
    instruction.path? = none := by
  cases instruction <;> first | rfl | cases h

/-- What is made of a text comes from a string. -/
theorem exists_string_of_text {make : String → Instruction} {v : Value} {instruction : Instruction}
    (ok : make <$> Payload.text v = .ok instruction) : ∃ s, v = .string s ∧ instruction = make s := by
  cases v with
  | string s =>
    cases ok
    exact ⟨s, rfl, rfl⟩
  | _ => cases ok

/-- A payload of a kind that names a file is the path of that file. -/
theorem path?_of_decode {kind : Kind} {v : Value} {instruction : Instruction}
    (decoded : Instruction.decode kind v = .ok instruction) :
    (kind.direction?.bind fun _ => v.string?) = instruction.path? := by
  have same := kind_of_decode decoded
  cases direction : kind.direction? with
  | none => rw [Instruction.path?_eq_none (same ▸ direction), Option.bind_none]
  | some _ =>
    rw [Option.bind_some]
    cases kind with
    | canvasSave | loopSave | canvasLoad | moodboardAdd | maskLoad | loopLoad | loopAddMoodboard =>
      obtain ⟨path, rfl, rfl⟩ := exists_string_of_text decoded
      rfl
    | _ => cases direction

namespace Instruction

/-- The use of a file that an instruction at a position names. -/
def fileUse? (index : Nat) (instruction : Instruction) : Option FileUse := do
  let direction ← instruction.kind.direction?
  let path ← instruction.path?
  return { index, kind := instruction.kind, path, direction }

/-- An entry is an instruction under its key. -/
def WrittenAs (instruction : Instruction) (entry : Value) : Prop :=
  ∃ v, entry = .object [(instruction.kind.key, v)] ∧ decode instruction.kind v = .ok instruction

end Instruction

namespace Preflight

variable {entry : Value} {instruction : Instruction}

theorem kindOf?_object (kind : Kind) (v : Value) : kindOf? (.object [(kind.key, v)]) = some (kind, v) := by
  simp [kindOf?, splitEntry, Kind.ofKey?_key]

/-- The use that is listed of an entry is the one that its instruction names. -/
theorem fileUse?_of_writtenAs (written : instruction.WrittenAs entry) (index : Nat) :
    fileUse? index entry = instruction.fileUse? index := by
  obtain ⟨v, rfl, decoded⟩ := written
  have path := path?_of_decode decoded
  unfold fileUse? Instruction.fileUse?
  rw [kindOf?_object]
  cases direction : instruction.kind.direction? with
  | none => simp [direction]
  | some _ =>
    rw [direction, Option.bind_some] at path
    simp [direction, path]

theorem isRender_of_writtenAs (written : instruction.WrittenAs entry) :
    isRender entry = decide (instruction.kind = .prompt) := by
  obtain ⟨v, rfl, -⟩ := written
  rw [isRender, kindOf?_object]

end Preflight

namespace Script

/-- An entry that decodes to a step that runs is written as its instruction. -/
theorem writtenAs_of_decodeStep {index : Nat} {entry : Value} {instruction : Instruction}
    (decoded : decodeStep index entry = .ok (.run instruction)) : instruction.WrittenAs entry := by
  unfold decodeStep at decoded
  split at decoded
  · rename_i key v single
    split at decoded
    · rename_i kind known
      split at decoded
      · rename_i other usable
        cases decoded
        obtain rfl := kind_of_decode usable
        obtain rfl := Kind.key_of_ofKey? known
        exact ⟨v, splitEntry_eq_ok_iff.1 single, usable⟩
      · cases decoded
    · cases decoded
  · cases decoded

/-- Entries that decode to steps that run are written as the instructions of these. -/
theorem writtenAs_of_decodeFrom {index : Nat} {entries : List Value} {instructions : List Instruction}
    (decoded : decodeFrom index entries = .ok (instructions.map .run)) :
    List.Forall₂ Instruction.WrittenAs instructions entries := by
  induction entries generalizing index instructions with
  | nil =>
    have none : instructions.map Step.run = [] := (Except.ok.inj decoded).symm
    rw [List.map_eq_nil_iff.1 none]
    exact .nil
  | cons entry entries ih =>
    rw [decodeFrom] at decoded
    cases here : decodeStep index entry with
    | error e =>
      rw [here] at decoded
      cases decoded
    | ok step =>
      cases later : decodeFrom (index + 1) entries with
      | error e =>
        rw [here, later] at decoded
        cases decoded
      | ok steps =>
        rw [here, later] at decoded
        have split : step :: steps = instructions.map .run := Except.ok.inj decoded
        obtain ⟨instruction, instructions, rfl, rfl, rfl⟩ := List.map_eq_cons_iff.1 split.symm
        exact .cons (writtenAs_of_decodeStep here) (ih later)

/-- A valid list of entries is written as the instructions that it decodes to. -/
theorem exists_instructions_of_valid {entries : List Value} (valid : (Validation.ofEntries entries).valid = true) :
    ∃ instructions : List Instruction, decode entries = .ok { steps := instructions.map .run } ∧
      List.Forall₂ Instruction.WrittenAs instructions entries := by
  obtain ⟨instructions, decoded, -⟩ := decodeFrom_of_accepted 0 (Validation.valid_ofEntries_iff.1 valid)
  refine ⟨instructions, ?_, writtenAs_of_decodeFrom decoded⟩
  unfold decode
  rw [decoded]
  rfl

end Script

namespace Preflight

variable {entries : List Value} {instructions : List Instruction}

/-- The use that an instruction names is in the list. -/
theorem mem_filesFrom (written : List.Forall₂ Instruction.WrittenAs instructions entries) {index i : Nat}
    {instruction : Instruction} (here : instructions[i]? = some instruction) {use : FileUse}
    (named : instruction.fileUse? (index + i) = some use) : use ∈ filesFrom index entries := by
  induction written generalizing index i with
  | nil => cases here
  | cons head tail ih =>
    rw [filesFrom, List.mem_append]
    cases i with
    | zero =>
      cases here
      left
      rw [fileUse?_of_writtenAs head]
      exact Option.mem_toList.2 named
    | succ i =>
      right
      have onward : index + (i + 1) = index + 1 + i := by omega
      rw [onward] at named
      exact ih here named

/-- The kinds of the entries. -/
def kinds (entries : List Value) : List Kind := entries.filterMap fun entry => (kindOf? entry).map Prod.fst

theorem kinds_eq (written : List.Forall₂ Instruction.WrittenAs instructions entries) :
    kinds entries = instructions.map Instruction.kind := by
  induction written with
  | nil => rfl
  | cons head tail ih =>
    obtain ⟨v, rfl, -⟩ := head
    rw [kinds, List.filterMap_cons, kindOf?_object, List.map_cons, ← ih]
    rfl

theorem countP_isRender (written : List.Forall₂ Instruction.WrittenAs instructions entries) :
    entries.countP isRender = instructions.countP fun instruction => decide (instruction.kind = .prompt) := by
  induction written with
  | nil => rfl
  | cons head tail ih => rw [List.countP_cons, List.countP_cons, ih, isRender_of_writtenAs head]

end Preflight

end CanvasScript
