import CanvasScript.Instruction.Payload
import CanvasScript.Proofs.Binary64.Order
import CanvasScript.Proofs.Json.Records

/-!
# Which values are payloads

For every reader of payloads, the values that it can use. A record is known from
its type (`record_isOk_iff`), so each kind of record only has to list its fields.
-/

namespace CanvasScript.Payload

open Json Outcome

variable {v : Value} {fields : Fields}

theorem text_isOk_iff : (∃ s, text v = .ok s) ↔ ∃ s, v = .string s := by
  cases v <;> simp [text]

theorem object_isOk_iff : (∃ fields, object v = .ok fields) ↔ ∃ fields, v = .object fields := by
  cases v <;> simp [object]

theorem number_isOk_iff : (∃ n, number v = .ok n) ↔ v.IsNumber := by
  cases v <;> simp [number, Value.IsNumber]

/-- The limit of slots is one of the numbers that are exact. -/
theorem equals_slotLimit : (Binary64.ofNat slotLimit).Equals slotLimit := by
  unfold Binary64.Equals
  decide +kernel

theorem equals_zero : Binary64.zero.Equals 0 := by
  unfold Binary64.Equals
  decide +kernel

/-- Slots are integers that are not negative, floating-point ones only up to the limit. -/
theorem slot_isOk_iff :
    (∃ n, slot v = .ok n) ↔
      (∃ n, v = .int n ∧ 0 ≤ n) ∨ ∃ x n, v = .float x ∧ x.Equals n ∧ 0 ≤ n ∧ n ≤ slotLimit := by
  cases v with
  | int n => by_cases low : 0 ≤ n <;> simp [slot, low]
  | float x =>
    have bounds {n : Int} (exact_n : x.Equals n) :
        (Binary64.zero.le x = true ↔ 0 ≤ n) ∧ (x.le (Binary64.ofNat slotLimit) = true ↔ n ≤ slotLimit) :=
      ⟨Binary64.le_iff_of_equals equals_zero exact_n, Binary64.le_iff_of_equals exact_n equals_slotLimit⟩
    simp only [slot]
    constructor
    · intro read
      split at read
      · rename_i good
        simp only [Bool.and_eq_true] at good
        obtain ⟨⟨low, whole⟩, high⟩ := good
        obtain ⟨n, exact_n⟩ := Binary64.isWhole_iff.1 whole
        exact .inr ⟨x, n, rfl, exact_n, (bounds exact_n).1.1 low, (bounds exact_n).2.1 high⟩
      · simp at read
    · rintro (⟨n, impossible, _⟩ | ⟨y, n, same, exact_n, low, high⟩)
      · cases impossible
      · obtain rfl := Value.float.inj same
        have good : (Binary64.zero.le x && x.isWhole && x.le (Binary64.ofNat slotLimit)) = true := by
          rw [(bounds exact_n).1.2 low, Binary64.isWhole_iff.2 ⟨n, exact_n⟩, (bounds exact_n).2.2 high]
          rfl
        exact ⟨x.truncated.toNat, if_pos good⟩
  | _ => simp [slot]

theorem weight?_isOk_iff {slot : Nat} :
    (∃ weight, weight? fields slot = .ok weight) ↔
      ∀ w, fields.get? (weightKey slot) = some w → w.IsNumber := by
  unfold weight?
  cases fields.get? (weightKey slot) with
  | none => simp
  | some w =>
    simp only [Option.some.injEq, forall_eq', ← Value.exists_number?_iff]
    cases w.number? <;> simp

/-- Weights are an object with a number for every slot that has one. -/
theorem weights_isOk_iff :
    (∃ given, weights v = .ok given) ↔
      ∃ fields, v = .object fields ∧
        ∀ slot < weightedSlots, ∀ w, Fields.get? (weightKey slot) fields = some w → w.IsNumber := by
  cases v with
  | object fields =>
    have read : weights (.object fields) =
        (fun given => given.filterMap id) <$> (List.range weightedSlots).mapM (weight? fields) := rfl
    rw [read, map_isOk_iff, mapM_isOk_iff]
    simp only [List.mem_range, weight?_isOk_iff, Value.object.injEq, exists_eq_left']
  | _ => exact ⟨fun ⟨_, impossible⟩ => (nomatch impossible), fun ⟨_, impossible, _⟩ => (nomatch impossible)⟩

/-- An object is the payload that is read as a record when it is one. -/
theorem record_isOk_iff {type : RecordType} {make : List FieldValue → α} (distinct : type.Distinct) :
    (∃ a, record type make (.object fields) = .ok a) ↔
      ∀ field ∈ type.fields, field.2.StandsIn fields field.1 := by
  rw [← RecordType.ofFields_isOk_iff distinct]
  show (∃ a, record type make (.object fields) = .ok a) ↔ ∃ held, type.read (.object fields) = .ok held
  unfold record
  cases type.read (.object fields) <;> simp

/-- A mask of a body is any value, and an object only when it is a record. -/
theorem bodyMask_isOk_iff :
    (∃ mask, bodyMask v = .ok mask) ↔ ∀ fields : Fields, v = .object fields →
      ∀ field ∈ bodyMaskType.fields, field.2.StandsIn fields field.1 := by
  cases v with
  | object fields =>
    simp only [Value.object.injEq, forall_eq']
    exact record_isOk_iff (by decide)
  | _ => simp [bodyMask]

end CanvasScript.Payload
