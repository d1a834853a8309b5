import CanvasScript.Proofs.Validation.Grammar

/-!
# Faults of entries

What is wrong with an entry, without regard to the others (`Faults`): it is no object with one
field, or a rule objects to it and none that is asked before does. The violations of a list are
the faults of its entries in their order (`Validation.mem_violations_iff`,
`Validation.exists_positions`), and an entry that stands elsewhere has the same fault under
another position (`Validation.violationsFrom_shift`). So lists are validated part by part
(`Validation.violations_of_entries`).
-/

namespace CanvasScript

open Json (Value)

/-- What is wrong with an entry at a position: its form, or the objection of a rule behind rules
that are silent. -/
inductive Faults (index : Nat) (entry : Value) : Violation → Prop where
  | malformed {defect : Malformed} (form : splitEntry entry = .error defect) :
      Faults index entry (.malformedEntry index defect)
  | objection {key : String} {v : Value} {before after : List Rule} {rule : Rule} {violation : Violation}
      (single : entry = .object [(key, v)])
      (order : [.knownKey, .valueType, .pathExtension, .payload] = before ++ rule :: after)
      (silent : ∀ earlier ∈ before, earlier.check index key (Kind.ofKey? key) v = none)
      (objects : rule.check index key (Kind.ofKey? key) v = some violation) : Faults index entry violation

/-- An entry has a fault: it is no object with one field, or some rule objects to it. -/
def IsFaulty (index : Nat) (entry : Value) : Prop :=
  (∀ field, entry ≠ .object [field]) ∨
    ∃ key v, entry = .object [(key, v)] ∧ ∃ rule ∈ Rule.all, rule.check index key (Kind.ofKey? key) v ≠ none

/-- Kinds of which a value of the right type may be of no use. -/
def Kind.isSelective : Kind → Bool
  | moveScale | adaptSize | latentSizes | loop | moodboardWeights | moodboardRemove | maskBody => true
  | _ => false

section Entries

variable {index : Nat} {entry : Value} {violation : Violation}

theorem splitEntry_eq_error_iff : (∃ defect, splitEntry entry = .error defect) ↔ ∀ field, entry ≠ .object [field] := by
  constructor
  · rintro ⟨defect, form⟩ field rfl
    cases form
  · intro other
    cases split : splitEntry entry with
    | error defect => exact ⟨defect, rfl⟩
    | ok field => exact absurd (splitEntry_eq_ok_iff.1 split) (other field)

theorem Validation.ofEntry_eq_some_iff : ofEntry index entry = some violation ↔ Faults index entry violation := by
  constructor
  · intro found
    unfold ofEntry at found
    split at found
    case h_1 key v single =>
      obtain ⟨before, rule, after, order, objects, silent⟩ := List.findSome?_eq_some_iff.1 found
      exact .objection (splitEntry_eq_ok_iff.1 single) order silent objects
    case h_2 defect form =>
      cases found
      exact .malformed form
  · intro faults
    cases faults with
    | malformed form => simp only [ofEntry, form]
    | objection single order silent objects =>
      subst single
      exact List.findSome?_eq_some_iff.2 ⟨_, _, _, order, objects, silent⟩

/-- Of the rules that object the first tells the fault. -/
theorem exists_faults_iff : (∃ violation, Faults index entry violation) ↔ IsFaulty index entry := by
  simp only [← Validation.ofEntry_eq_some_iff, ← Option.ne_none_iff_exists']
  cases split : splitEntry entry with
  | error defect =>
    have malformed : ∀ field, entry ≠ .object [field] := splitEntry_eq_error_iff.1 ⟨defect, split⟩
    simp only [Validation.ofEntry, split]
    exact ⟨fun _ => .inl malformed, fun _ => nofun⟩
  | ok field =>
    obtain ⟨key, v⟩ := field
    obtain rfl := splitEntry_eq_ok_iff.1 split
    have silent : Rule.firstObjection index key v = none ↔
        ∀ rule ∈ Rule.all, rule.check index key (Kind.ofKey? key) v = none := List.findSome?_eq_none_iff
    constructor
    · intro wrong
      have objection : ¬∀ rule ∈ Rule.all, rule.check index key (Kind.ofKey? key) v = none := mt silent.2 wrong
      simp only [not_forall] at objection
      obtain ⟨rule, listed, objects⟩ := objection
      exact .inr ⟨key, v, rfl, rule, listed, objects⟩
    · rintro (malformed | ⟨key, v, ⟨⟩, rule, listed, objects⟩) none
      · exact malformed (key, v) rfl
      · exact objects (silent.1 none rule listed)

end Entries

section Places

variable {index : Nat} {entries : List Value} {violation : Violation}

/-- A rule does not regard the position of an entry, other than to tell it. -/
theorem Rule.check_shift (rule : Rule) (index count : Nat) (key : String) (kind? : Option Kind) (v : Value) :
    rule.check (index + count) key kind? v = (rule.check index key kind? v).map (Violation.shift count) := by
  cases kind? with
  | none => cases rule <;> rfl
  | some kind =>
    cases rule with
    | knownKey => rfl
    | valueType =>
      simp only [check]
      split <;> rfl
    | pathExtension =>
      simp only [check]
      split
      · split <;> rfl
      · rfl
    | payload =>
      simp only [check]
      split <;> rfl

namespace Validation

theorem ofEntry_shift (index count : Nat) (entry : Value) :
    ofEntry (index + count) entry = (ofEntry index entry).map (Violation.shift count) := by
  unfold ofEntry
  split
  · simp only [Rule.firstObjection, Rule.check_shift, List.map_findSome?]
    rfl
  · rfl

/-- Entries that stand later have the same violations under later positions. -/
theorem violationsFrom_shift (index count : Nat) (entries : List Value) :
    violationsFrom (index + count) entries = (violationsFrom index entries).map (Violation.shift count) := by
  induction entries generalizing index with
  | nil => rfl
  | cons entry entries ih =>
    rw [violationsFrom, violationsFrom, List.map_append, ofEntry_shift, Nat.add_right_comm, ih]
    cases ofEntry index entry <;> rfl

/-- The violations of a list are the faults of its entries, each under the position of its entry. -/
theorem mem_violationsFrom_iff :
    violation ∈ violationsFrom index entries ↔
      ∃ position entry, entries[position]? = some entry ∧ Faults (index + position) entry violation := by
  constructor
  · intro mem
    induction entries generalizing index with
    | nil => cases mem
    | cons entry entries ih =>
      rw [violationsFrom, List.mem_append, Option.mem_toList] at mem
      rcases mem with here | later
      · exact ⟨0, entry, rfl, ofEntry_eq_some_iff.1 here⟩
      · obtain ⟨position, other, stands, faults⟩ := ih later
        refine ⟨position + 1, other, stands, ?_⟩
        rwa [Nat.add_comm position, ← Nat.add_assoc]
  · rintro ⟨position, entry, stands, faults⟩
    exact mem_violationsFrom stands (ofEntry_eq_some_iff.2 faults)

theorem mem_violations_iff {position : Nat} :
    violation ∈ (ofEntries entries).violations ∧ violation.index? = some position ↔
      ∃ entry, entries[position]? = some entry ∧ Faults position entry violation := by
  have under {other : Nat} {entry : Value} (faults : Faults other entry violation) :
      violation.index? = some other := index?_of_ofEntry (ofEntry_eq_some_iff.2 faults)
  simp only [ofEntries, mem_violationsFrom_iff, Nat.zero_add]
  constructor
  · rintro ⟨⟨other, entry, stands, faults⟩, here⟩
    obtain rfl : other = position := Option.some.inj ((under faults).symm.trans here)
    exact ⟨entry, stands, faults⟩
  · rintro ⟨entry, stands, faults⟩
    exact ⟨⟨position, entry, stands, faults⟩, under faults⟩

/-- The positions of violations increase, so no entry has two. -/
theorem exists_positions (index : Nat) (entries : List Value) :
    ∃ positions : List Nat, (violationsFrom index entries).map Violation.index? = positions.map some ∧
      (∀ position ∈ positions, index ≤ position) ∧ positions.Pairwise (· < ·) := by
  induction entries generalizing index with
  | nil => exact ⟨[], rfl, List.forall_mem_nil _, .nil⟩
  | cons entry entries ih =>
    obtain ⟨positions, same, later, increasing⟩ := ih (index + 1)
    rw [violationsFrom]
    cases found : ofEntry index entry with
    | none => exact ⟨positions, same, fun position mem => Nat.le_of_succ_le (later position mem), increasing⟩
    | some violation =>
      refine ⟨index :: positions, ?_, ?_, List.pairwise_cons.2 ⟨later, increasing⟩⟩
      · rw [Option.toList_some, List.singleton_append, List.map_cons, List.map_cons, same, index?_of_ofEntry found]
      · exact List.forall_mem_cons.2 ⟨Nat.le_refl _, fun position mem => Nat.le_of_succ_le (later position mem)⟩

end Validation

end Places

section Payloads

variable {kind : Kind} {v : Value}

/-- A value of the right type is a payload of every kind that is not selective. -/
theorem Kind.usable_of_fits (plain : kind.isSelective = false) (fits : kind.shape.fits v = true) :
    ∃ instruction, Instruction.decode kind v = .ok instruction := by
  cases kind with
  | moveScale | adaptSize | latentSizes | loop | moodboardWeights | moodboardRemove | maskBody => cases plain
  | prompt | negativePrompt | askZoom | loopAddMoodboard | maskAsk | loopLoad =>
    obtain ⟨s, rfl⟩ := Shape.fits_string_iff.1 fits
    exact ⟨_, rfl⟩
  | canvasSave | canvasLoad | moodboardAdd | maskLoad | loopSave =>
    obtain ⟨path, rfl⟩ := Shape.fits_path_iff.1 fits
    exact ⟨_, rfl⟩
  | config | inpaintTools | poseJson =>
    obtain ⟨fields, rfl⟩ := Shape.fits_object_iff.1 fits
    exact ⟨_, rfl⟩
  | frames => exact Outcome.map_isOk_iff.2 (Payload.number_isOk_iff.2 (Shape.fits_number_iff.1 fits))
  | _ => exact ⟨_, rfl⟩

/-- Only the rule for payloads finds that a payload cannot be used. -/
theorem Rule.unusable_of_check {rule : Rule} {index position : Nat} {key message : String} {kind? : Option Kind}
    (objects : rule.check index key kind? v = some (.unusablePayload position kind message)) :
    rule = .payload ∧ kind? = some kind ∧ ∃ cause, Instruction.decode kind v = .error cause := by
  cases kind? with
  | none => cases rule <;> cases objects
  | some known =>
    cases rule with
    | knownKey => cases objects
    | valueType =>
      simp only [check] at objects
      split at objects <;> cases objects
    | pathExtension =>
      simp only [check] at objects
      split at objects
      · split at objects <;> cases objects
      · cases objects
    | payload =>
      simp only [check] at objects
      split at objects
      · cases objects
      · rename_i cause unusable
        cases objects
        exact ⟨rfl, rfl, cause, unusable⟩

/-- The type of a value was found right before its payload is looked at. -/
theorem Rule.valueType_mem_before {before after : List Rule}
    (order : [knownKey, valueType, pathExtension, payload] = before ++ payload :: after) : valueType ∈ before := by
  rcases before with _ | ⟨first, _ | ⟨second, before⟩⟩
  · cases order
  · cases order
  · simp only [List.cons_append, List.cons.injEq] at order
    exact order.2.1 ▸ List.mem_cons_of_mem _ List.mem_cons_self

/-- Only selective kinds have a payload that cannot be used though its type is right. -/
theorem Faults.isSelective {index position : Nat} {entry : Value} {message : String}
    (faults : Faults index entry (.unusablePayload position kind message)) : kind.isSelective = true := by
  cases faults with
  | @objection key v before after rule _ single order silent objects =>
    obtain ⟨rfl, known, cause, unusable⟩ := Rule.unusable_of_check objects
    have typed := silent .valueType (Rule.valueType_mem_before order)
    rw [known, Rule.check_valueType_eq_none_iff] at typed
    by_contra plain
    obtain ⟨instruction, usable⟩ := Kind.usable_of_fits (Bool.eq_false_iff.2 plain) typed
    rw [unusable] at usable
    cases usable

end Payloads

namespace Validation

theorem valid_append_iff (first second : List Value) :
    (ofEntries (first ++ second)).valid = true ↔
      (ofEntries first).valid = true ∧ (ofEntries second).valid = true := by
  simp only [valid_ofEntries_iff, List.forall_mem_append]

/-- **Violations are complete, ordered and compositional.** The violations of a list stand under
increasing positions, just those of the entries that have a fault, and each is the fault of its
entry: the first objection in the order of the rules. A list in two parts is validated as its
parts are, what is wrong with the second part standing as many places later as the first is
long. Only selective kinds have payloads that cannot be used. -/
theorem violations_of_entries (entries others : List Value) :
    (∃ positions : List Nat, (ofEntries entries).violations.map Violation.index? = positions.map some ∧
      positions.Pairwise (· < ·) ∧
      ∀ position, position ∈ positions ↔ ∃ entry, entries[position]? = some entry ∧ IsFaulty position entry) ∧
    (∀ position violation,
      violation ∈ (ofEntries entries).violations ∧ violation.index? = some position ↔
        ∃ entry, entries[position]? = some entry ∧ Faults position entry violation) ∧
    (ofEntries (entries ++ others)).violations =
      (ofEntries entries).violations ++ (ofEntries others).violations.map (Violation.shift entries.length) ∧
    (ofEntries (entries ++ others)).models = (ofEntries entries).models ++ (ofEntries others).models ∧
    (ofEntries (entries ++ others)).count = (ofEntries entries).count + (ofEntries others).count ∧
    ((ofEntries (entries ++ others)).valid = true ↔
      (ofEntries entries).valid = true ∧ (ofEntries others).valid = true) ∧
    ∀ position kind message, .unusablePayload position kind message ∈ (ofEntries entries).violations →
      kind.isSelective = true := by
  refine ⟨?increasing, fun _ _ => mem_violations_iff, ?later, modelNames_append entries others,
    List.length_append, valid_append_iff entries others, ?payloads⟩
  case increasing =>
    obtain ⟨positions, same, -, increasing⟩ := exists_positions 0 entries
    refine ⟨positions, same, increasing, fun position => ?_⟩
    calc position ∈ positions
      _ ↔ some position ∈ positions.map some := by simp
      _ ↔ ∃ violation ∈ (ofEntries entries).violations, violation.index? = some position := by
        rw [← same, List.mem_map, ofEntries]
      _ ↔ ∃ violation entry, entries[position]? = some entry ∧ Faults position entry violation :=
        exists_congr fun _ => mem_violations_iff
      _ ↔ ∃ entry, entries[position]? = some entry ∧ IsFaulty position entry := by
        rw [exists_comm]
        simp only [exists_and_left, exists_faults_iff]
  case later =>
    simp only [ofEntries, violationsFrom_append, Nat.zero_add]
    rw [← violationsFrom_shift, Nat.zero_add]
  case payloads =>
    intro position kind message mem
    obtain ⟨entry, -, faults⟩ := mem_violations_iff.1 ⟨mem, rfl⟩
    exact faults.isSelective

/-- A value that is no entry and a picture of the wrong sort, and then a note and a loop that is
not counted: the loop stands fourth. -/
theorem violations_of_entries_parts :
    let shots : List Value := [.null, .object [("canvasSave", .string "a.jpg")]]
    let loops : List Value := [.object [("note", .string "b")], .object [("loop", .object [("loop", .string "c")])]]
    (ofEntries (shots ++ loops)).violations =
        [.malformedEntry 0 .notAnObject, .wrongExtension 1 .canvasSave ["png"] "a.jpg",
          .unusablePayload 3 .loop "invalid type: string \"c\", expected f64"] ∧
      (ofEntries (shots ++ loops)).valid = false ∧ Kind.loop.isSelective = true := by
  intro shots loops
  obtain ⟨-, -, later, -, -, -, -⟩ := violations_of_entries shots loops
  obtain ⟨-, -, -, -, -, -, selective⟩ := violations_of_entries loops shots
  have loops_violations : (ofEntries loops).violations =
      [.unusablePayload 1 .loop "invalid type: string \"c\", expected f64"] := by decide +kernel
  have whole : (ofEntries (shots ++ loops)).violations =
      [.malformedEntry 0 .notAnObject, .wrongExtension 1 .canvasSave ["png"] "a.jpg",
        .unusablePayload 3 .loop "invalid type: string \"c\", expected f64"] := by
    rw [later, loops_violations]
    decide +kernel
  exact ⟨whole, by rw [valid, whole]; rfl, selective 1 .loop _ (loops_violations ▸ List.mem_singleton_self _)⟩

end Validation

end CanvasScript
