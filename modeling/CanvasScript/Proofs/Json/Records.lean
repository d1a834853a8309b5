import CanvasScript.Json.Record
import CanvasScript.Proofs.Outcome
import Mathlib.Data.List.Nodup

/-!
# Which objects are records

An object can be read as a record when every pair under the name of a field holds
what the field may hold, and no field without a value to fall back on is missing
(`RecordType.ofFields_isOk_iff`). Names of other fields do not matter, nor does the
order of the pairs.
-/

namespace CanvasScript.Json

open Outcome

/-- When no key stands twice, an element is found by its key. -/
theorem find?_key {α : Type} {key : α → String} {list : List α} (distinct : (list.map key).Nodup) {a : α}
    (mem : a ∈ list) : (list.find? fun other => key other == key a) = some a := by
  cases found : list.find? fun other => key other == key a with
  | none =>
    rw [List.find?_eq_none] at found
    exact absurd (beq_self_eq_true (key a)) (found a mem)
  | some other =>
    have same : key other = key a := by simpa using List.find?_some found
    rw [List.inj_on_of_nodup_map distinct (List.mem_of_find?_eq_some found) mem same]

/-- A value is a number. -/
def Value.IsNumber : Value → Prop
  | int _ | float _ => True
  | _ => False

/-- A value is a Boolean. -/
def Value.IsFlag : Value → Prop
  | bool _ => True
  | _ => False

theorem Value.exists_number?_iff {v : Value} : (∃ x, v.number? = some x) ↔ v.IsNumber := by
  cases v <;> simp [number?, IsNumber]

namespace FieldType

/-- What a field may hold. -/
def Holds : FieldType → Value → Prop
  | number, v => v.IsNumber
  | optionalNumber, v => v = .null ∨ v.IsNumber
  | flag, v => v.IsFlag

/-- The pairs of an object under a name are good for a field: none is bad, and there
is one if there is nothing to fall back on. -/
def StandsIn (type : FieldType) (fields : Fields) (name : String) : Prop :=
  (∀ v, (name, v) ∈ fields → type.Holds v) ∧ (type.fallback? = none → ∃ v, (name, v) ∈ fields)

theorem read_isOk_iff {type : FieldType} {v : Value} : (∃ held, type.read v = .ok held) ↔ type.Holds v := by
  cases type <;> cases v <;> simp [read, Holds, Value.number?, Value.IsNumber, Value.IsFlag]

end FieldType

namespace Fields

theorem mem_of_get? {name : String} {fields : Fields} {v : Value} (h : get? name fields = some v) :
    (name, v) ∈ fields := by
  obtain ⟨⟨key, held⟩, found, rfl⟩ := Option.map_eq_some_iff.1 h
  obtain rfl : key = name := by simpa using List.find?_some found
  exact List.mem_of_find?_eq_some found

theorem not_mem_of_get? {name : String} {fields : Fields} (h : get? name fields = none) (v : Value) :
    (name, v) ∉ fields := by
  intro member
  rw [get?, Option.map_eq_none_iff, List.find?_eq_none] at h
  simpa using h _ member

end Fields

namespace RecordType

variable {type : RecordType} {fields : Fields} {name : String} {fieldType : FieldType}

/-- No two fields have one name. -/
def Distinct (type : RecordType) : Prop := (type.fields.map (·.1)).Nodup

instance (type : RecordType) : Decidable type.Distinct := inferInstanceAs (Decidable (List.Nodup _))

theorem find?_eq_some_iff (distinct : type.Distinct) :
    (type.fields.find? fun field => field.1 == name) = some (name, fieldType) ↔
      (name, fieldType) ∈ type.fields := by
  constructor
  · exact List.mem_of_find?_eq_some
  · intro member
    exact find?_key distinct member

/-- No known field of an object is bad. -/
theorem judge_isOk_iff (distinct : type.Distinct) :
    (∃ done, type.judge fields = .ok done) ↔
      ∀ name fieldType, (name, fieldType) ∈ type.fields → ∀ v, (name, v) ∈ fields → fieldType.Holds v := by
  rw [judge, forM_isOk_iff]
  constructor
  · intro good name fieldType known v member
    have here := good (name, v) member
    simp only [(find?_eq_some_iff distinct).2 known] at here
    exact FieldType.read_isOk_iff.1 (map_isOk_iff.1 here)
  · rintro good ⟨key, v⟩ member
    simp only
    cases found : type.fields.find? fun field => field.1 == key with
    | none => exact ⟨(), rfl⟩
    | some field =>
      obtain ⟨name, fieldType⟩ := field
      obtain rfl : name = key := by simpa using List.find?_some found
      have holds := good name fieldType (List.mem_of_find?_eq_some found) v member
      exact map_isOk_iff.2 (FieldType.read_isOk_iff.2 holds)

/-- A field of an object can be read when the pairs under its name are good for it. -/
theorem readField_isOk (good : fieldType.StandsIn fields name) :
    ∃ held, readField fields name fieldType = .ok held := by
  unfold readField
  cases given : Fields.get? name fields with
  | some v => exact FieldType.read_isOk_iff.2 (good.1 v (Fields.mem_of_get? given))
  | none =>
    cases fallback : fieldType.fallback? with
    | some held => exact ⟨held, rfl⟩
    | none =>
      obtain ⟨v, member⟩ := good.2 fallback
      exact absurd member (Fields.not_mem_of_get? given v)

theorem present_of_readField {held : FieldValue} (h : readField fields name fieldType = .ok held)
    (needed : fieldType.fallback? = none) : ∃ v, (name, v) ∈ fields := by
  unfold readField at h
  cases given : Fields.get? name fields with
  | some v => exact ⟨v, Fields.mem_of_get? given⟩
  | none => simp [given, needed] at h

/-- **Objects that are records.** They are good for every field of the record. -/
theorem ofFields_isOk_iff (distinct : type.Distinct) :
    (∃ held, type.ofFields fields = .ok held) ↔ ∀ field ∈ type.fields, field.2.StandsIn fields field.1 := by
  have apart : (∃ held, type.ofFields fields = .ok held) ↔ (∃ done, type.judge fields = .ok done) ∧
      ∃ held, (type.fields.mapM fun field => readField fields field.1 field.2) = .ok held := by
    unfold ofFields
    rw [bind_isOk_iff, exists_and_right]
  rw [apart, judge_isOk_iff distinct, mapM_isOk_iff]
  constructor
  · rintro ⟨good, read⟩ field known
    obtain ⟨held, here⟩ := read field known
    exact ⟨good field.1 field.2 known, present_of_readField here⟩
  · intro both
    exact ⟨fun name fieldType known => (both (name, fieldType) known).1,
      fun field known => readField_isOk (both field known)⟩

end RecordType

end CanvasScript.Json
