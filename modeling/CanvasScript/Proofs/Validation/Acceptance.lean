import CanvasScript.Validation

/-!
# What the rules accept

The rules together ask three things of the value of a known kind (`Kind.Accepts`).
`ofEntry_eq_none_iff` says that an entry without a violation is just an object of
one such kind and value, wherever the entry stands, and `valid_ofEntries_iff` says
it of a whole list. A violation is found under the position of its entry
(`exists_violation`).
-/

namespace CanvasScript

/-- A value is of the type, has the extension and is the payload that its kind asks for. -/
structure Kind.Accepts (kind : Kind) (v : Json.Value) : Prop where
  fits : kind.shape.fits v = true
  extended : ∀ {allowed path}, kind.shape = .path allowed → v = .string path →
    ∃ extension ∈ allowed, hasExtension path extension = true
  usable : ∃ instruction, Instruction.decode kind v = .ok instruction

namespace Rule

variable {index : Nat} {key : String} {kind : Kind} {v : Json.Value}

theorem check_valueType_eq_none_iff :
    valueType.check index key (some kind) v = none ↔ kind.shape.fits v = true := by
  simp [check]

theorem check_pathExtension_eq_none_iff :
    pathExtension.check index key (some kind) v = none ↔
      ∀ {allowed path}, kind.shape = .path allowed → v = .string path →
        ∃ extension ∈ allowed, hasExtension path extension = true := by
  simp only [check]
  split
  · rename_i allowed path shape
    have only : (∀ {listed written}, kind.shape = .path listed → Json.Value.string path = .string written →
        ∃ extension ∈ listed, hasExtension written extension = true) ↔
        ∃ extension ∈ allowed, hasExtension path extension = true := by
      constructor
      · exact fun all => all shape rfl
      · intro found listed written same written_eq
        obtain rfl := Shape.path.inj (shape.symm.trans same)
        obtain rfl := Json.Value.string.inj written_eq
        exact found
    rw [only]
    simp
  · rename_i other
    exact ⟨fun _ {allowed path} shape string => (other allowed path shape string).elim, fun _ => rfl⟩

theorem check_payload_eq_none_iff :
    payload.check index key (some kind) v = none ↔ ∃ instruction, Instruction.decode kind v = .ok instruction := by
  simp only [check]
  cases Instruction.decode kind v <;> simp

/-- No rule objects to a known key whose kind accepts the value. -/
theorem firstObjection_eq_none_iff :
    firstObjection index key v = none ↔ ∃ kind, Kind.ofKey? key = some kind ∧ kind.Accepts v := by
  unfold firstObjection
  rw [List.findSome?_eq_none_iff]
  cases known : Kind.ofKey? key with
  | none =>
    constructor
    · intro silent
      have objects := silent knownKey (by decide)
      simp [check] at objects
    · rintro ⟨kind, impossible, _⟩
      cases impossible
  | some kind =>
    constructor
    · intro silent
      refine ⟨kind, rfl, ?_, ?_, ?_⟩
      · exact check_valueType_eq_none_iff.1 (silent valueType (by decide))
      · exact check_pathExtension_eq_none_iff.1 (silent pathExtension (by decide))
      · exact check_payload_eq_none_iff.1 (silent payload (by decide))
    · rintro ⟨same, same_eq, accepts⟩ rule _
      obtain rfl := Option.some.inj same_eq
      cases rule with
      | knownKey => rfl
      | valueType => exact check_valueType_eq_none_iff.2 accepts.fits
      | pathExtension => exact check_pathExtension_eq_none_iff.2 accepts.extended
      | payload => exact check_payload_eq_none_iff.2 accepts.usable

/-- An objection names the entry it is about. -/
theorem index?_of_check {rule : Rule} {kind? : Option Kind} {violation : Violation}
    (h : rule.check index key kind? v = some violation) : violation.index? = some index := by
  unfold check at h
  split at h <;> (try split at h) <;> (try split at h) <;> cases h <;> rfl

end Rule

namespace Validation

variable {index : Nat} {entry : Json.Value} {entries : List Json.Value} {violation : Violation}

/-- Nothing is wrong with an entry when it is an object of one kind and a value that
the kind accepts. -/
theorem ofEntry_eq_none_iff :
    ofEntry index entry = none ↔ ∃ kind : Kind, ∃ v, entry = .object [(kind.key, v)] ∧ kind.Accepts v := by
  unfold ofEntry
  constructor
  · intro silent
    split at silent
    · rename_i key v single
      obtain ⟨kind, known, accepts⟩ := Rule.firstObjection_eq_none_iff.1 silent
      obtain rfl := Kind.key_of_ofKey? known
      exact ⟨kind, v, splitEntry_eq_ok_iff.1 single, accepts⟩
    · cases silent
  · rintro ⟨kind, v, rfl, accepts⟩
    exact Rule.firstObjection_eq_none_iff.2 ⟨kind, Kind.ofKey?_key kind, accepts⟩

/-- What is wrong with an entry is told under its position. -/
theorem index?_of_ofEntry (h : ofEntry index entry = some violation) : violation.index? = some index := by
  unfold ofEntry at h
  split at h
  · obtain ⟨rule, _, objects⟩ := List.exists_of_findSome?_eq_some h
    exact Rule.index?_of_check objects
  · cases h
    rfl

theorem violationsFrom_eq_nil_iff :
    violationsFrom index entries = [] ↔ ∀ entry ∈ entries, ∀ position, ofEntry position entry = none := by
  induction entries generalizing index with
  | nil => simp [violationsFrom]
  | cons entry entries ih =>
    -- whether an entry is accepted does not depend on its position
    have anywhere : ofEntry index entry = none ↔ ∀ position, ofEntry position entry = none := by
      constructor
      · exact fun silent _ => ofEntry_eq_none_iff.2 (ofEntry_eq_none_iff.1 silent)
      · exact fun silent => silent index
    rw [violationsFrom, List.append_eq_nil_iff, ih, Option.toList_eq_nil_iff, anywhere, List.forall_mem_cons]

/-- A list is valid when every entry is an object of one kind and a value that the
kind accepts. -/
theorem valid_ofEntries_iff :
    (ofEntries entries).valid = true ↔
      ∀ entry ∈ entries, ∃ kind : Kind, ∃ v, entry = .object [(kind.key, v)] ∧ kind.Accepts v := by
  unfold valid ofEntries
  simp only [List.isEmpty_iff, violationsFrom_eq_nil_iff, ofEntry_eq_none_iff, forall_const]

theorem mem_violationsFrom {position : Nat} (here : entries[position]? = some entry)
    (h : ofEntry (index + position) entry = some violation) : violation ∈ violationsFrom index entries := by
  induction entries generalizing index position with
  | nil => cases here
  | cons first entries ih =>
    rw [violationsFrom, List.mem_append]
    cases position with
    | zero =>
      obtain rfl := Option.some.inj here
      left
      rw [Nat.add_zero] at h
      rw [h]
      exact List.mem_singleton_self _
    | succ position =>
      right
      exact ih here (by rwa [Nat.add_right_comm, Nat.add_assoc])

/-- An entry with which something is wrong has a violation under its position. -/
theorem exists_violation {position : Nat} (here : entries[position]? = some entry)
    (h : ofEntry position entry ≠ none) :
    ∃ violation ∈ (ofEntries entries).violations, violation.index? = some position := by
  obtain ⟨violation, wrong⟩ := Option.ne_none_iff_exists'.1 h
  exact ⟨violation, mem_violationsFrom here (by rwa [Nat.zero_add]), index?_of_ofEntry wrong⟩

end Validation

end CanvasScript
