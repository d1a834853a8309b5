import CanvasScript.Proofs.Validation.Acceptance

/-!
# Decoding scripts

Decoding goes through the entries from the first on and fails at the first payload
that cannot be used (`decode_error`), an entry with which something is wrong
(`ofEntry_ne_none_of_spoils`). A valid list has no such entry, and nothing in it is
passed over (`decode_of_valid`).
-/

namespace CanvasScript

open Json (Value)

/-- The payload of an entry cannot be used, for a cause. -/
def Spoils (kind : Kind) (cause : PayloadCause) (entry : Value) : Prop :=
  ∃ v, entry = .object [(kind.key, v)] ∧ Instruction.decode kind v = .error cause

/-- The payload of an entry cannot be used. -/
def IsSpoiled (entry : Value) : Prop := ∃ kind cause, Spoils kind cause entry

namespace Script

variable {index : Nat} {entry : Value} {entries : List Value} {e : PayloadError}

/-- A step fails under its own position, with what spoils its entry. -/
theorem decodeStep_error (h : decodeStep index entry = .error e) :
    e.index = index ∧ Spoils e.kind e.cause entry := by
  unfold decodeStep at h
  split at h
  · rename_i key v single
    split at h
    · rename_i kind known
      split at h
      · cases h
      · rename_i cause unusable
        cases h
        obtain rfl := Kind.key_of_ofKey? known
        exact ⟨rfl, v, splitEntry_eq_ok_iff.1 single, unusable⟩
    · cases h
  · cases h

theorem decodeStep_of_spoils {kind : Kind} {cause : PayloadCause} (h : Spoils kind cause entry) :
    decodeStep index entry = .error { index, kind, cause } := by
  obtain ⟨v, rfl, unusable⟩ := h
  simp [decodeStep, splitEntry, Kind.ofKey?_key, unusable]

theorem not_isSpoiled_of_decodeStep {step : Step} (h : decodeStep index entry = .ok step) : ¬IsSpoiled entry := by
  rintro ⟨kind, cause, spoils⟩
  rw [decodeStep_of_spoils spoils] at h
  cases h

/-- An entry that is accepted is an instruction. -/
theorem decodeStep_of_accepts (index : Nat) {kind : Kind} {v : Value} (accepts : kind.Accepts v) :
    ∃ instruction, decodeStep index (.object [(kind.key, v)]) = .ok (.run instruction) := by
  obtain ⟨instruction, decoded⟩ := accepts.usable
  refine ⟨instruction, ?_⟩
  simp [decodeStep, splitEntry, Kind.ofKey?_key, decoded]

/-- Decoding fails at the first entry that is spoiled. -/
theorem decodeFrom_error (h : decodeFrom index entries = .error e) :
    ∃ before entry after, entries = before ++ entry :: after ∧ e.index = index + before.length ∧
      Spoils e.kind e.cause entry ∧ ∀ other ∈ before, ¬IsSpoiled other := by
  induction entries generalizing index with
  | nil => cases h
  | cons first entries ih =>
    rw [decodeFrom] at h
    cases here : decodeStep index first with
    | error other =>
      rw [here] at h
      obtain rfl : other = e := Except.error.inj h
      obtain ⟨position, spoils⟩ := decodeStep_error here
      exact ⟨[], first, entries, rfl, position, spoils, List.forall_mem_nil _⟩
    | ok step =>
      rw [here] at h
      cases later : decodeFrom (index + 1) entries with
      | ok steps =>
        rw [later] at h
        cases h
      | error other =>
        rw [later] at h
        obtain rfl : other = e := Except.error.inj h
        obtain ⟨before, entry, after, rfl, position, spoils, good⟩ := ih later
        refine ⟨first :: before, entry, after, rfl, ?_, spoils, ?_⟩
        · rw [position, List.length_cons]
          omega
        · rw [List.forall_mem_cons]
          exact ⟨not_isSpoiled_of_decodeStep here, good⟩

/-- Entries that are accepted decode to as many instructions. -/
theorem decodeFrom_of_accepted (index : Nat)
    (accepted : ∀ entry ∈ entries, ∃ kind : Kind, ∃ v, entry = .object [(kind.key, v)] ∧ kind.Accepts v) :
    ∃ instructions : List Instruction,
      decodeFrom index entries = .ok (instructions.map .run) ∧ instructions.length = entries.length := by
  induction entries generalizing index with
  | nil => exact ⟨[], rfl, rfl⟩
  | cons entry entries ih =>
    obtain ⟨⟨kind, v, rfl, accepts⟩, later⟩ := List.forall_mem_cons.1 accepted
    obtain ⟨instruction, here⟩ := decodeStep_of_accepts index accepts
    obtain ⟨instructions, decoded, count⟩ := ih (index + 1) later
    refine ⟨instruction :: instructions, ?_, ?_⟩
    · rw [decodeFrom, here, decoded]
      rfl
    · rw [List.length_cons, List.length_cons, count]

theorem decode_error (h : decode entries = .error e) :
    ∃ before entry after, entries = before ++ entry :: after ∧ e.index = before.length ∧
      Spoils e.kind e.cause entry ∧ ∀ other ∈ before, ¬IsSpoiled other := by
  have failed : decodeFrom 0 entries = .error e := by
    unfold decode at h
    cases decoded : decodeFrom 0 entries with
    | ok steps =>
      rw [decoded] at h
      cases h
    | error other =>
      rw [decoded] at h
      exact congrArg Except.error (Except.error.inj h)
  simpa using decodeFrom_error failed

/-- A valid list of entries decodes to a script that runs every one of them. -/
theorem decode_of_valid (valid : (Validation.ofEntries entries).valid = true) :
    ∃ instructions : List Instruction,
      decode entries = .ok { steps := instructions.map .run } ∧ instructions.length = entries.length := by
  obtain ⟨instructions, decoded, count⟩ := decodeFrom_of_accepted 0 (Validation.valid_ofEntries_iff.1 valid)
  refine ⟨instructions, ?_, count⟩
  unfold decode
  rw [decoded]
  rfl

end Script

/-- Something is wrong with an entry that is spoiled. -/
theorem Validation.ofEntry_ne_none_of_spoils {index : Nat} {kind : Kind} {cause : PayloadCause} {entry : Value}
    (h : Spoils kind cause entry) : ofEntry index entry ≠ none := by
  intro silent
  obtain ⟨other, w, same, accepts⟩ := ofEntry_eq_none_iff.1 silent
  obtain ⟨instruction, decoded⟩ := Script.decodeStep_of_accepts index accepts
  rw [← same, Script.decodeStep_of_spoils h] at decoded
  cases decoded

end CanvasScript
