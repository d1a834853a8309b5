import CanvasScript.Proofs.Json.Printing
import CanvasScript.Proofs.Json.Tagged
import CanvasScript.Violation.Record
import Mathlib

/-!
# Violations are read back from their records

A detail is read back from the value that is written for it (`Detail.read_toValue`), and the
details of a violation from their fields in any order (`Variant.ofFields_of_perm`), since the names
of the fields differ from each other and from that of the tag (`nodup_names`). Tags tell apart the
things that can be wrong (`find?_tag`), so a violation is read back from its object
(`ofFields_of_perm`) and from the texts that spell it (`ofText_of_asWritten`).
-/

namespace CanvasScript.Violation

open Json
open Outcome (bind_eq_ok_iff)

section Lookup

variable {α : Type} {fields : List (String × α)} {key : String} {a : α}

/-- When no key stands twice, what stands under a key is found. -/
theorem lookup_eq_some_iff (distinct : (fields.map (·.1)).Nodup) :
    fields.lookup key = some a ↔ (key, a) ∈ fields := by
  induction fields with
  | nil => exact ⟨nofun, nofun⟩
  | cons field fields ih =>
    obtain ⟨k, b⟩ := field
    obtain ⟨apart, distinct'⟩ := List.nodup_cons.1 distinct
    rw [List.lookup_cons, List.mem_cons, Prod.mk.injEq]
    by_cases same : key = k
    · subst same
      have missing : (key, a) ∉ fields := fun mem => apart (List.mem_map_of_mem (f := (·.1)) mem)
      simp [missing, eq_comm]
    · have other : (key == k) = false := beq_eq_false_iff_ne.2 same
      simp [other, same, ih distinct']

end Lookup

section Details

/-- The names of defects tell them apart. -/
theorem ofName?_name (defect : Malformed) : Malformed.ofName? defect.name = some defect := by
  cases defect <;> decide

theorem mapM_readText (ss : List String) : (ss.map Value.string).mapM readText = .ok ss := by
  induction ss with
  | nil => rfl
  | cons s ss ih =>
    rw [List.map_cons, List.mapM_cons, ih]
    rfl

namespace Detail

/-- What a detail is written as. -/
def toValue : Detail → Value
  | index n => ofNat n
  | text s => .string s
  | texts ss => .array (ss.map .string)
  | kind k => .string k.key
  | defect d => .string d.name

def type : Detail → DetailType
  | index _ => .index
  | text _ => .text
  | texts _ => .texts
  | kind _ => .kind
  | defect _ => .defect

theorem read_toValue (detail : Detail) : detail.type.read detail.toValue = .ok detail := by
  cases detail with
  | index n => simp [type, toValue, DetailType.read, ofNat]
  | text s => rfl
  | texts ss =>
    show Detail.texts <$> (ss.map Value.string).mapM readText = _
    rw [mapM_readText]
    rfl
  | kind kind =>
    show Detail.kind <$> named Kind.ofKey? (Kind.all.map Kind.key) kind.key = _
    rw [named, Kind.ofKey?_key]
    rfl
  | defect defect =>
    show Detail.defect <$> named Malformed.ofName? (Malformed.all.map Malformed.name) defect.name = _
    rw [named, ofName?_name]
    rfl

end Detail

/-- Details under the names that they are asked for by. -/
inductive Writes : List (String × DetailType) → List Detail → Fields → Prop where
  | nil : Writes [] [] []
  | cons {asked : List (String × DetailType)} {details : List Detail} {fields : Fields} (name : String)
    (detail : Detail) (behind : Writes asked details fields) :
    Writes ((name, detail.type) :: asked) (detail :: details) ((name, detail.toValue) :: fields)

variable {asked : List (String × DetailType)} {details : List Detail} {fields written : Fields}
  {variant : Variant}

namespace Writes

theorem keys_eq (writes : Writes asked details written) : written.map (·.1) = asked.map (·.1) := by
  induction writes with
  | nil => rfl
  | cons name detail behind ih => rw [List.map_cons, List.map_cons, ih]

theorem exists_of_mem (writes : Writes asked details written) {field : String × Value} (mem : field ∈ written) :
    ∃ detail : Detail, (field.1, detail.type) ∈ asked ∧ field.2 = detail.toValue := by
  induction writes with
  | nil => cases mem
  | cons name detail behind ih =>
    rcases List.mem_cons.1 mem with rfl | later
    · exact ⟨detail, List.mem_cons_self, rfl⟩
    · obtain ⟨detail', asks, same⟩ := ih later
      exact ⟨detail', List.mem_cons_of_mem _ asks, same⟩

/-- The details are found by their names. -/
theorem mapM_eq (writes : Writes asked details written) (distinct : fields.Distinct)
    (inside : ∀ field ∈ written, field ∈ fields) :
    (asked.mapM fun (name, type) =>
      match fields.lookup name with
      | some v => type.read v
      | none => .error (Cause.missingField name)) = .ok details := by
  induction writes with
  | nil => rfl
  | cons name detail behind ih =>
    obtain ⟨here, later⟩ := List.forall_mem_cons.1 inside
    rw [List.mapM_cons, ih later]
    simp only [(lookup_eq_some_iff distinct).2 here, detail.read_toValue]
    rfl

end Writes

/-- Fields are in order when no key stands twice and what is asked for can be read. -/
theorem Variant.judge_eq_ok {seen : List String} (distinct : fields.Distinct) (fresh : ∀ field ∈ fields, field.1 ∉ seen)
    (good : ∀ field ∈ fields, ∀ type, variant.details.lookup field.1 = some type →
      ∃ detail, type.read field.2 = .ok detail) : variant.judge seen fields = .ok () := by
  induction fields generalizing seen with
  | nil => rfl
  | cons field fields ih =>
    obtain ⟨key, v⟩ := field
    obtain ⟨apart, distinct'⟩ := Fields.distinct_cons_iff.1 distinct
    obtain ⟨unseen, fresh'⟩ := List.forall_mem_cons.1 fresh
    obtain ⟨here, good'⟩ := List.forall_mem_cons.1 good
    rw [judge]
    cases asked : variant.details.lookup key with
    | none => exact ih distinct' fresh' good'
    | some type =>
      obtain ⟨detail, reads⟩ := here type asked
      have notSeen : seen.contains key = false := by simpa using unseen
      have behind : variant.judge (key :: seen) fields = .ok () := by
        refine ih distinct' (fun field mem => ?_) good'
        rw [List.mem_cons, not_or]
        exact ⟨apart field mem, fresh' field mem⟩
      simp only [notSeen, reads, Bool.false_eq_true, if_false]
      exact behind

/-- Details are read from their fields in any order. -/
theorem Variant.ofFields_of_perm (names : (variant.details.map (·.1)).Nodup)
    (writes : Writes variant.details details written) (perm : fields.Perm written) :
    variant.ofFields fields = .ok details := by
  have distinct : fields.Distinct := by
    rw [Fields.Distinct, (perm.map _).nodup_iff, writes.keys_eq]
    exact names
  have good : ∀ field ∈ fields, ∀ type, variant.details.lookup field.1 = some type →
      ∃ detail, type.read field.2 = .ok detail := by
    intro field mem type asks
    obtain ⟨detail, known, same⟩ := writes.exists_of_mem (perm.mem_iff.1 mem)
    rw [(lookup_eq_some_iff names).2 known, Option.some.injEq] at asks
    rw [← asks, same]
    exact ⟨detail, detail.read_toValue⟩
  have judged : variant.judge [] fields = .ok () := judge_eq_ok distinct (fun _ _ => List.not_mem_nil) good
  rw [ofFields, judged]
  exact writes.mapM_eq distinct fun field mem => perm.mem_iff.2 mem

end Details

section Naming

theorem nodup_tags : tags.Nodup := by decide

/-- The names of the details of a violation differ from each other and from the field that names
what is wrong. -/
theorem nodup_names : ∀ variant ∈ variants, (tagKey :: variant.details.map (·.1)).Nodup := by
  decide

/-- A tag names one of the things that can be wrong. -/
theorem find?_tag {variant : Variant} (mem : variant ∈ variants) :
    (variants.find? fun other => other.tag == variant.tag) = some variant :=
  find?_key nodup_tags mem

/-- Every violation is one of the things that can be wrong with its details. -/
theorem exists_variant (v : Violation) :
    ∃ variant ∈ variants, ∃ details written, v.toFields = (tagKey, .string variant.tag) :: written ∧
      Writes variant.details details written ∧ variant.build details = some v := by
  cases v with
  | malformedText message => exact ⟨_, .head _, _, _, rfl, .cons _ (.text message) .nil, rfl⟩
  | malformedEntry index defect =>
    exact ⟨_, .tail _ (.head _), _, _, rfl, .cons _ (.index index) (.cons _ (.defect defect) .nil), rfl⟩
  | unknownKey index key =>
    exact ⟨_, .tail _ (.tail _ (.head _)), _, _, rfl, .cons _ (.index index) (.cons _ (.text key) .nil), rfl⟩
  | wrongType index kind expected actual =>
    exact ⟨_, .tail _ (.tail _ (.tail _ (.head _))), _, _, rfl, .cons _ (.index index) (.cons _ (.kind kind)
      (.cons _ (.text expected) (.cons _ (.text actual) .nil))), rfl⟩
  | wrongExtension index kind allowed actual =>
    exact ⟨_, .tail _ (.tail _ (.tail _ (.tail _ (.head _)))), _, _, rfl, .cons _ (.index index) (.cons _ (.kind kind)
      (.cons _ (.texts allowed) (.cons _ (.text actual) .nil))), rfl⟩
  | unusablePayload index kind message =>
    exact ⟨_, .tail _ (.tail _ (.tail _ (.tail _ (.tail _ (.head _))))), _, _, rfl, .cons _ (.index index)
      (.cons _ (.kind kind) (.cons _ (.text message) .nil)), rfl⟩

end Naming

section Reading

variable {v w : Violation} {fields : Fields}

theorem ofContent_eq_ok {variant : Variant} {content : Content} {details : List Detail} (known : variant ∈ variants)
    (reads : variant.read content = .ok details) (builds : variant.build details = some v) :
    ofContent variant.tag content = .ok v := by
  rw [ofContent, find?_tag known]
  refine bind_eq_ok_iff.2 ⟨details, reads, ?_⟩
  rw [builds]
  rfl

/-- The fields of a violation in any order name a tag, and what stands beside it makes the
violation. -/
theorem ofContent_of_perm (perm : fields.Perm v.toFields) :
    ∃ name, fields.Distinct ∧ (tagKey, .string name) ∈ fields ∧ name ∈ tags ∧
      ofContent name (.fields (fields.filter fun field => field.1 != tagKey)) = .ok v := by
  obtain ⟨variant, known, details, written, same, writes, builds⟩ := exists_variant v
  obtain ⟨apart, names⟩ := List.nodup_cons.1 (nodup_names variant known)
  rw [same] at perm
  have keys : written.map (·.1) = variant.details.map (·.1) := writes.keys_eq
  have distinct : fields.Distinct := by
    rw [Fields.Distinct, (perm.map _).nodup_iff, List.map_cons, keys]
    exact nodup_names variant known
  have others : ∀ field ∈ written, field.1 ≠ tagKey := by
    intro field mem same
    have here : field.1 ∈ written.map (·.1) := List.mem_map_of_mem mem
    rw [keys, same] at here
    exact apart here
  have beside : (fields.filter fun field => field.1 != tagKey).Perm written := by
    have filtered := perm.filter fun field => field.1 != tagKey
    rwa [List.filter_cons_of_neg (by simp), Fields.filter_ne_eq_self others] at filtered
  refine ⟨variant.tag, distinct, perm.mem_iff.2 List.mem_cons_self, List.mem_map_of_mem known, ?_⟩
  exact ofContent_eq_ok known (Variant.ofFields_of_perm names writes beside) builds

/-- The object of a violation is read back, its fields standing in any order. -/
theorem ofFields_of_perm (perm : fields.Perm v.toFields) : ofFields fields = .ok v := by
  obtain ⟨name, distinct, mem, known, reads⟩ := ofContent_of_perm perm
  rw [ofFields, (lookup_eq_some_iff distinct).2 mem]
  exact reads

/-- Two violations have no object in common, in whatever order the fields stand. -/
theorem eq_of_perm (perm : w.toFields.Perm v.toFields) : w = v := by
  have reads := ofFields_of_perm perm
  have back := ofFields_of_perm (.refl w.toFields)
  rw [back] at reads
  exact Except.ok.inj reads

/-- A violation is read from every text that spells its object, its fields standing in any order. -/
theorem ofText_of_asWritten {text : String} (written : asWritten text = .ok (.object fields))
    (perm : fields.Perm v.toFields) : ofText text = .ok v := by
  obtain ⟨name, distinct, mem, known, reads⟩ := ofContent_of_perm perm
  obtain ⟨gap, core, gap', blank, blank', split, spells⟩ := asWritten_eq_ok_iff.1 written
  have tagged : Gives (tag.read (Input.ofText text))
      (name, .fields (fields.filter fun field => field.1 != tagKey)) gap' := by
    rw [Input.ofText, split]
    exact tag.read_complete known distinct mem blank spells gap' _
  refine wholeText_of_gives (tagged.bind fun place => ⟨place, ?_⟩) blank'
  simp only [reads]
  rfl

/-- The place of the entry that a violation is about is a machine word. -/
def Fits (v : Violation) : Prop := ∀ index, v.index? = some index → index < UInt64.size

theorem Fits.spells_field (fits : v.Fits) : ∀ field ∈ v.toFields, Spells 1 (compactChars field.2) field.2 := by
  have counted {index : Nat} (least : index < UInt64.size) : Spells 1 (compactChars (ofNat index)) (ofNat index) := by
    have number : NumberText (intChars index) (.int index) := numberText_intChars (by omega) (by exact_mod_cast least)
    exact .number number
  have listed (texts : List String) : Spells 1 (compactChars (.array (texts.map .string))) (.array (texts.map .string)) := by
    refine spells_array fun v mem => ?_
    obtain ⟨s, -, rfl⟩ := List.mem_map.1 mem
    exact spells_string 0 s
  cases v with
  | malformedText message => simp [toFields, spells_string]
  | malformedEntry index defect => simp [toFields, spells_string, counted (fits index rfl)]
  | unknownKey index key => simp [toFields, spells_string, counted (fits index rfl)]
  | wrongType index kind expected actual => simp [toFields, spells_string, counted (fits index rfl)]
  | wrongExtension index kind allowed actual => simp [toFields, spells_string, counted (fits index rfl), listed allowed]
  | unusablePayload index kind message => simp [toFields, spells_string, counted (fits index rfl)]

/-- The text of the object of a violation spells its fields in the order in which they stand. -/
theorem Fits.asWritten_of_perm (fits : v.Fits) (perm : fields.Perm v.toFields) :
    asWritten (Value.object fields).compact = .ok (.object fields) := by
  have each : ∀ field ∈ fields, Spells 1 (compactChars field.2) field.2 := by
    intro field mem
    exact fits.spells_field field (perm.mem_iff.1 mem)
  exact Json.asWritten_compact ((spells_object each).mono (by decide))

end Reading

/-- **Violations survive as records.** The object that is written for a violation is read back as
that violation in whatever order its fields stand, as a value, from the text that is written for
it and from any other text that spells it; and two violations have neither an object nor a text in
common. -/
theorem records_survive (v : Violation) :
    (∀ fields, fields.Perm v.toFields → ofFields fields = .ok v ∧
      (v.Fits → ofText (Value.object fields).compact = .ok v) ∧
      ∀ text, asWritten text = .ok (.object fields) → ofText text = .ok v) ∧
    ∀ w, w ≠ v → ¬w.toFields.Perm v.toFields ∧ (w.Fits → v.Fits → w.toJson.compact ≠ v.toJson.compact) := by
  refine ⟨fun fields perm => ⟨ofFields_of_perm perm, fun fits => ?_, fun text written => ?_⟩, fun w other => ⟨?_, ?_⟩⟩
  · exact ofText_of_asWritten (fits.asWritten_of_perm perm) perm
  · exact ofText_of_asWritten written perm
  · intro perm
    exact other (eq_of_perm perm)
  · intro fits' fits same
    have written' : asWritten w.toJson.compact = .ok (.object w.toFields) := fits'.asWritten_of_perm (.refl _)
    have written : asWritten v.toJson.compact = .ok (.object v.toFields) := fits.asWritten_of_perm (.refl _)
    rw [same, written] at written'
    have fields : v.toFields = w.toFields := by simpa using written'
    exact other (eq_of_perm (fields ▸ .refl _))

/-- The record of an unknown key with a quote in it, its fields backwards or with the tag in the middle and blanks
between them; another violation has the name of a kind under the same field. -/
theorem records_survive_unknown_key :
    let v := unknownKey 2 "no\"te"
    let w := unusablePayload 2 .note "no\"te"
    let text := "\x7b \"index\" : 2,\n \"violation\":\"unknown_key\", \"kind\": \"no\\\"te\" \x7d"
    v.toFields.reverse.Perm v.toFields ∧ ofFields v.toFields.reverse = .ok v ∧
      ofText (Value.object v.toFields.reverse).compact = .ok v ∧ ofText text = .ok v ∧
      w.toJson.compact ≠ v.toJson.compact := by
  intro v w text
  have fits : v.Fits := by
    rintro index ⟨⟩
    decide
  have fits' : w.Fits := by
    rintro index ⟨⟩
    decide
  have perm : v.toFields.reverse.Perm v.toFields := List.reverse_perm v.toFields
  have middle : List.Perm [("index", ofNat 2), (tagKey, .string "unknown_key"), ("kind", .string "no\"te")] v.toFields :=
    .swap _ _ _
  have written : asWritten text =
      .ok (.object [("index", ofNat 2), (tagKey, .string "unknown_key"), ("kind", .string "no\"te")]) := by cbv
  have other : w ≠ v := by decide
  obtain ⟨survives, apart⟩ := records_survive v
  obtain ⟨decoded, read, -⟩ := survives _ perm
  exact ⟨perm, decoded, read fits, (survives _ middle).2.2 text written, (apart w other).2 fits' fits⟩

end CanvasScript.Violation
