import CanvasScript.Proofs.Validation.Acceptance
import CanvasScript.Proofs.Validation.Payloads

/-!
# The grammar of instructions

`Kind.Admits` writes down, kind by kind and without rules or readers, which values
an instruction may have. `Kind.accepts_iff_admits` shows that the rules and the
readers of payloads together accept just these, and `Validation.valid_iff_grammar`
says so of scripts.
-/

namespace CanvasScript

open Json Outcome

/-- A path ends in a point and an extension, in small or capital letters. -/
def EndsIn (path extension : String) : Prop :=
  ∃ stem written : List Char, path.toList = stem ++ '.' :: written ∧ written.map Char.toLower = extension.toList

/-- There is a field of the name, and it holds a number. -/
def Json.Fields.HasNumber (fields : Fields) (name : String) : Prop :=
  (∃ v, (name, v) ∈ fields) ∧ ∀ v, (name, v) ∈ fields → v.IsNumber

/-- A field of the name is left out, null or a number. -/
def Json.Fields.MayHaveNumber (fields : Fields) (name : String) : Prop :=
  ∀ v, (name, v) ∈ fields → v = .null ∨ v.IsNumber

/-- A field of the name is left out or a Boolean. -/
def Json.Fields.MayHaveFlag (fields : Fields) (name : String) : Prop :=
  ∀ v, (name, v) ∈ fields → v.IsFlag

namespace Kind

/-- The values that an instruction of a kind may have. A slot is any integer that is not
negative, or a whole floating-point number of 32 bits. -/
def Admits : Kind → Value → Prop
  | note, v | prompt, v | negativePrompt, v | askZoom, v | loopAddMoodboard, v | maskAsk, v | loopLoad, v =>
    ∃ s, v = .string s
  | config, v | inpaintTools, v | poseJson, v => ∃ fields : Fields, v = .object fields
  | frames, v => v.IsNumber
  | canvasSave, v | loopSave, v => ∃ path, v = .string path ∧ EndsIn path "png"
  | canvasLoad, v | moodboardAdd, v | maskLoad, v =>
    ∃ path, v = .string path ∧ (EndsIn path "png" ∨ EndsIn path "jpg" ∨ EndsIn path "webp")
  | moveScale, v =>
    ∃ fields : Fields, v = .object fields ∧
      fields.HasNumber "position_X" ∧ fields.HasNumber "position_Y" ∧ fields.HasNumber "canvas_scale"
  | adaptSize, v =>
    ∃ fields : Fields, v = .object fields ∧ fields.HasNumber "maxWidth" ∧ fields.HasNumber "maxHeight"
  | latentSizes, v =>
    ∃ fields : Fields, v = .object fields ∧
      fields.HasNumber "original" ∧ fields.HasNumber "target" ∧ fields.HasNumber "negative"
  | loop, v =>
    ∃ fields : Fields, v = .object fields ∧ fields.MayHaveNumber "loop" ∧ fields.MayHaveNumber "start"
  | moodboardWeights, v =>
    ∃ fields : Fields, v = .object fields ∧
      ∀ slot < 12, ∀ w, Fields.get? s!"index_{slot}" fields = some w → w.IsNumber
  | moodboardRemove, v =>
    (∃ n, v = .int n ∧ 0 ≤ n) ∨ ∃ x n, v = .float x ∧ x.Equals n ∧ 0 ≤ n ∧ n ≤ 4294967295
  | maskBody, v =>
    ∀ fields : Fields, v = .object fields →
      fields.MayHaveFlag "upper" ∧ fields.MayHaveFlag "lower" ∧ fields.MayHaveFlag "clothes" ∧
        fields.MayHaveFlag "neck" ∧ fields.MayHaveNumber "extra"
  | faceZoom, _ | removeBackground, _ | canvasClear, _ | crop, _ | moodboardClear, _ | moodboardCanvas, _
  | moodboardLoad, _ | maskClear, _ | maskGet, _ | maskBackground, _ | maskForeground, _ | depthExtract, _
  | depthCanvas, _ | depthToCanvas, _ | poseExtract, _ | poseClear, _ | loopEnd, _ | finish, _ => True

end Kind

/-- Only a point becomes a point as a small letter. -/
theorem toLower_eq_point {c : Char} : c.toLower = '.' ↔ c = '.' := by
  constructor
  · intro lowered
    unfold Char.toLower at lowered
    split at lowered
    · rename_i capital
      have code := congrArg Char.val lowered
      have low : 'A'.val ≤ c.val := capital.1
      have high : c.val ≤ 'Z'.val := capital.2
      grind
    · exact lowered
  · rintro rfl
    rfl

theorem hasExtension_iff {path extension : String} :
    hasExtension path extension = true ↔ EndsIn path extension := by
  unfold hasExtension EndsIn
  rw [List.isSuffixOf_iff_suffix]
  constructor
  · rintro ⟨before, whole⟩
    obtain ⟨stem, rest, split_path, -, lowered⟩ := List.map_eq_append_iff.1 whole.symm
    obtain ⟨point, written, rfl, is_point, same⟩ := List.map_eq_cons_iff.1 lowered
    exact ⟨stem, written, by rw [split_path, toLower_eq_point.1 is_point], same⟩
  · rintro ⟨stem, written, split_path, same⟩
    refine ⟨stem.map Char.toLower, ?_⟩
    rw [split_path, List.map_append, List.map_cons, same]
    rfl

namespace Shape

variable {v : Value}

theorem fits_string_iff : Shape.string.fits v = true ↔ ∃ s, v = .string s := by cases v <;> simp [fits]

theorem fits_path_iff {extensions : List String} : (Shape.path extensions).fits v = true ↔ ∃ s, v = .string s := by
  cases v <;> simp [fits]

theorem fits_number_iff : Shape.number.fits v = true ↔ v.IsNumber := by cases v <;> simp [fits, Value.IsNumber]

theorem fits_object_iff : Shape.object.fits v = true ↔ ∃ fields, v = .object fields := by
  cases v <;> simp [fits]

end Shape

namespace Json.FieldType

variable {fields : Fields} {name : String}

theorem number_standsIn_iff : number.StandsIn fields name ↔ fields.HasNumber name := by
  simp only [StandsIn, Holds, fallback?, forall_const, Fields.HasNumber]
  exact And.comm

theorem optionalNumber_standsIn_iff : optionalNumber.StandsIn fields name ↔ fields.MayHaveNumber name := by
  simp [StandsIn, Holds, fallback?, Fields.MayHaveNumber]

theorem flag_standsIn_iff : flag.StandsIn fields name ↔ fields.MayHaveFlag name := by
  simp [StandsIn, Holds, fallback?, Fields.MayHaveFlag]

end Json.FieldType

namespace Kind

variable {kind : Kind} {v : Value}

/-- The three demands where no extension is asked for: the type and the payload. -/
theorem accepts_iff_of_plain {make : α → Instruction} {read : Value → Payload.Result α}
    (plain : kind.shape.extensions? = none) (decodes : Instruction.decode kind v = make <$> read v) :
    kind.Accepts v ↔ kind.shape.fits v = true ∧ ∃ a, read v = .ok a := by
  have usable : (∃ instruction, Instruction.decode kind v = .ok instruction) ↔ ∃ a, read v = .ok a := by
    rw [decodes, map_isOk_iff]
  constructor
  · exact fun accepts => ⟨accepts.fits, usable.1 accepts.usable⟩
  · rintro ⟨fits, read⟩
    refine ⟨fits, ?_, usable.2 read⟩
    intro allowed path shape
    rw [shape] at plain
    cases plain

/-- A kind without a payload accepts every value of its type. -/
theorem accepts_iff_of_nothing {make : Unit → Instruction} (plain : kind.shape.extensions? = none)
    (decodes : Instruction.decode kind v = make <$> Payload.nothing v) :
    kind.Accepts v ↔ kind.shape.fits v = true := by
  rw [accepts_iff_of_plain plain decodes]
  exact and_iff_left ⟨(), rfl⟩

theorem accepts_iff_of_text {make : String → Instruction} (shape : kind.shape = .string)
    (decodes : Instruction.decode kind v = make <$> Payload.text v) :
    kind.Accepts v ↔ ∃ s, v = .string s := by
  have plain : kind.shape.extensions? = none := by rw [shape]; rfl
  rw [accepts_iff_of_plain plain decodes, shape, Shape.fits_string_iff, Payload.text_isOk_iff, and_self]

theorem accepts_iff_of_object {make : Fields → Instruction} (shape : kind.shape = .object)
    (decodes : Instruction.decode kind v = make <$> Payload.object v) :
    kind.Accepts v ↔ ∃ fields : Fields, v = .object fields := by
  have plain : kind.shape.extensions? = none := by rw [shape]; rfl
  rw [accepts_iff_of_plain plain decodes, shape, Shape.fits_object_iff, Payload.object_isOk_iff, and_self]

/-- A path needs one of the extensions of its kind. -/
theorem accepts_iff_of_path {make : String → Instruction} {allowed : List String}
    (shape : kind.shape = .path allowed) (decodes : Instruction.decode kind v = make <$> Payload.text v) :
    kind.Accepts v ↔ ∃ path, v = .string path ∧ ∃ extension ∈ allowed, EndsIn path extension := by
  constructor
  · intro accepts
    have fits := accepts.fits
    rw [shape, Shape.fits_path_iff] at fits
    obtain ⟨path, rfl⟩ := fits
    obtain ⟨extension, listed, ends⟩ := accepts.extended shape rfl
    exact ⟨path, rfl, extension, listed, hasExtension_iff.1 ends⟩
  · rintro ⟨path, rfl, extension, listed, ends⟩
    refine ⟨by rw [shape]; rfl, ?_, ?_⟩
    · intro other written other_shape same
      obtain rfl := Shape.path.inj (shape.symm.trans other_shape)
      obtain rfl := Value.string.inj same
      exact ⟨extension, listed, hasExtension_iff.2 ends⟩
    · rw [decodes, map_isOk_iff, Payload.text_isOk_iff]
      exact ⟨path, rfl⟩

/-- A record is an object that is good for all fields of its type. -/
theorem accepts_iff_of_record {make : α → Instruction} {fill : List FieldValue → α} {type : RecordType}
    (shape : kind.shape = .object) (distinct : type.Distinct)
    (decodes : Instruction.decode kind v = make <$> Payload.record type fill v) :
    kind.Accepts v ↔ ∃ fields : Fields, v = .object fields ∧
      ∀ field ∈ type.fields, field.2.StandsIn fields field.1 := by
  have plain : kind.shape.extensions? = none := by rw [shape]; rfl
  rw [accepts_iff_of_plain plain decodes, shape, Shape.fits_object_iff]
  constructor
  · rintro ⟨⟨fields, rfl⟩, read⟩
    exact ⟨fields, rfl, (Payload.record_isOk_iff distinct).1 read⟩
  · rintro ⟨fields, rfl, good⟩
    exact ⟨⟨fields, rfl⟩, (Payload.record_isOk_iff distinct).2 good⟩

/-- The rules accept for every kind what the grammar admits. -/
theorem accepts_iff_admits (kind : Kind) (v : Value) : kind.Accepts v ↔ kind.Admits v := by
  cases kind with
  | prompt | negativePrompt | askZoom | loopAddMoodboard | maskAsk | loopLoad =>
    exact accepts_iff_of_text rfl rfl
  | config | inpaintTools | poseJson => exact accepts_iff_of_object rfl rfl
  | note => exact (accepts_iff_of_nothing rfl rfl).trans Shape.fits_string_iff
  | faceZoom | removeBackground | canvasClear | crop | moodboardClear | moodboardCanvas | moodboardLoad
  | maskClear | maskGet | maskBackground | maskForeground | depthExtract | depthCanvas | depthToCanvas
  | poseExtract | poseClear | loopEnd | finish =>
    rw [accepts_iff_of_nothing rfl rfl]
    simp [shape, Shape.fits, Admits]
  | frames =>
    rw [accepts_iff_of_plain rfl rfl, Payload.number_isOk_iff]
    exact and_iff_right_of_imp Shape.fits_number_iff.2
  | canvasSave | loopSave =>
    rw [accepts_iff_of_path rfl rfl]
    simp [savedExtensions, Admits]
  | canvasLoad | moodboardAdd | maskLoad =>
    rw [accepts_iff_of_path rfl rfl]
    simp [imageExtensions, Admits]
  | moveScale =>
    rw [accepts_iff_of_record rfl (by decide) rfl]
    simp [Payload.moveScaleType, FieldType.number_standsIn_iff, Admits]
  | adaptSize =>
    rw [accepts_iff_of_record rfl (by decide) rfl]
    simp [Payload.sizeLimitsType, FieldType.number_standsIn_iff, Admits]
  | latentSizes =>
    rw [accepts_iff_of_record rfl (by decide) rfl]
    simp [Payload.latentTiersType, FieldType.number_standsIn_iff, Admits]
  | loop =>
    rw [accepts_iff_of_record rfl (by decide) rfl]
    simp [Payload.loopSpecType, FieldType.optionalNumber_standsIn_iff, Admits]
  | moodboardWeights =>
    rw [accepts_iff_of_plain rfl rfl, Payload.weights_isOk_iff]
    apply and_iff_right_of_imp
    rintro ⟨fields, rfl, _⟩
    rfl
  | moodboardRemove =>
    rw [accepts_iff_of_plain rfl rfl, Payload.slot_isOk_iff]
    apply and_iff_right_of_imp
    rintro (⟨n, rfl, _⟩ | ⟨x, n, rfl, _⟩) <;> rfl
  | maskBody =>
    rw [accepts_iff_of_plain rfl rfl, Payload.bodyMask_isOk_iff]
    simp [Payload.bodyMaskType, FieldType.flag_standsIn_iff, FieldType.optionalNumber_standsIn_iff, shape,
      Shape.fits, Admits]

end Kind

/-- **The grammar of scripts.** A list of entries is valid when every entry is an
object with one field, named by a kind and with a value that the kind admits. -/
theorem Validation.valid_iff_grammar (entries : List Value) :
    (Validation.ofEntries entries).valid = true ↔
      ∀ entry ∈ entries, ∃ kind : Kind, ∃ v, entry = .object [(kind.key, v)] ∧ kind.Admits v := by
  simp only [valid_ofEntries_iff, Kind.accepts_iff_admits]

end CanvasScript
