import CanvasScript.Proofs.Json.Fields

/-!
# Strings inside values

Two values are leafwise related when they differ in their strings only, at any depth, and
these are related one by one (`Value.Leafwise`): they have the same keys, lengths and
nesting and all else in common. Such a value can be found when every string has a related
one (`Value.exists_leafwise_iff`). Overlaid fields are related when the fields and what is
put over them are (`Value.LeafwiseFields.overlay`).
-/

namespace CanvasScript.Json.Value

mutual

/-- The strings inside a value, at any depth, in the order in which they stand. -/
def strings : Value → List String
  | string s => [s]
  | array items => stringsOfItems items
  | object fields => stringsOfFields fields
  | _ => []

def stringsOfItems : List Value → List String
  | [] => []
  | v :: rest => v.strings ++ stringsOfItems rest

/-- The strings inside the values of fields; keys are none of them. -/
def stringsOfFields : List (String × Value) → List String
  | [] => []
  | (_, v) :: rest => v.strings ++ stringsOfFields rest

end

mutual

/-- Two values are alike but for their strings, which are related one by one. -/
inductive Leafwise (R : String → String → Prop) : Value → Value → Prop
  | null : Leafwise R null null
  | bool (b : Bool) : Leafwise R (bool b) (bool b)
  | int (n : Int) : Leafwise R (int n) (int n)
  | float (x : Binary64) : Leafwise R (float x) (float x)
  | string {s t : String} (related : R s t) : Leafwise R (string s) (string t)
  | array {items others : List Value} (each : LeafwiseItems R items others) :
    Leafwise R (array items) (array others)
  | object {fields others : List (String × Value)} (each : LeafwiseFields R fields others) :
    Leafwise R (object fields) (object others)

inductive LeafwiseItems (R : String → String → Prop) : List Value → List Value → Prop
  | nil : LeafwiseItems R [] []
  | cons {v w : Value} {items others : List Value} (first : Leafwise R v w) (rest : LeafwiseItems R items others) :
    LeafwiseItems R (v :: items) (w :: others)

/-- The keys are the same, in the same order. -/
inductive LeafwiseFields (R : String → String → Prop) : List (String × Value) → List (String × Value) → Prop
  | nil : LeafwiseFields R [] []
  | cons {key : String} {v w : Value} {fields others : List (String × Value)} (first : Leafwise R v w)
    (rest : LeafwiseFields R fields others) : LeafwiseFields R ((key, v) :: fields) ((key, w) :: others)

end

variable {R S : String → String → Prop}

theorem leafwise_string_iff {s : String} {w : Value} : Leafwise R (string s) w ↔ ∃ t, R s t ∧ string t = w := by
  constructor
  · intro related
    cases related with
    | string here => exact ⟨_, here, rfl⟩
  · rintro ⟨t, here, rfl⟩
    exact .string here

theorem leafwise_array_iff {items : List Value} {w : Value} :
    Leafwise R (array items) w ↔ ∃ others, LeafwiseItems R items others ∧ array others = w := by
  constructor
  · intro related
    cases related with
    | array each => exact ⟨_, each, rfl⟩
  · rintro ⟨others, each, rfl⟩
    exact .array each

theorem leafwise_object_iff {fields : Fields} {w : Value} :
    Leafwise R (object fields) w ↔ ∃ others, LeafwiseFields R fields others ∧ object others = w := by
  constructor
  · intro related
    cases related with
    | object each => exact ⟨_, each, rfl⟩
  · rintro ⟨others, each, rfl⟩
    exact .object each

theorem leafwiseItems_nil_iff {others : List Value} : LeafwiseItems R [] others ↔ [] = others := by
  constructor
  · rintro ⟨⟩
    rfl
  · rintro rfl
    exact .nil

theorem leafwiseFields_nil_iff {others : Fields} : LeafwiseFields R [] others ↔ [] = others := by
  constructor
  · rintro ⟨⟩
    rfl
  · rintro rfl
    exact .nil

theorem leafwiseItems_cons_iff {v : Value} {items others : List Value} :
    LeafwiseItems R (v :: items) others ↔
      ∃ w, Leafwise R v w ∧ ∃ rest, LeafwiseItems R items rest ∧ w :: rest = others := by
  constructor
  · intro related
    cases related with
    | cons first rest => exact ⟨_, first, _, rest, rfl⟩
  · rintro ⟨w, first, rest, each, rfl⟩
    exact .cons first each

theorem leafwiseFields_cons_iff {key : String} {v : Value} {fields others : Fields} :
    LeafwiseFields R ((key, v) :: fields) others ↔
      ∃ w, Leafwise R v w ∧ ∃ rest, LeafwiseFields R fields rest ∧ (key, w) :: rest = others := by
  constructor
  · intro related
    cases related with
    | cons first rest => exact ⟨_, first, _, rest, rfl⟩
  · rintro ⟨w, first, rest, each, rfl⟩
    exact .cons first each

mutual

/-- There is a leafwise related value when there is a related string for every string inside. -/
theorem exists_leafwise_iff (v : Value) : (∃ w, Leafwise R v w) ↔ ∀ s ∈ v.strings, ∃ t, R s t := by
  match v with
  | .null => exact ⟨fun _ => List.forall_mem_nil _, fun _ => ⟨_, .null⟩⟩
  | .bool b => exact ⟨fun _ => List.forall_mem_nil _, fun _ => ⟨_, .bool b⟩⟩
  | .int n => exact ⟨fun _ => List.forall_mem_nil _, fun _ => ⟨_, .int n⟩⟩
  | .float x => exact ⟨fun _ => List.forall_mem_nil _, fun _ => ⟨_, .float x⟩⟩
  | .string s =>
    rw [strings, List.forall_mem_singleton]
    simp [leafwise_string_iff]
  | .array items =>
    rw [strings, ← exists_leafwiseItems_iff items]
    simp [leafwise_array_iff]
  | .object fields =>
    rw [strings, ← exists_leafwiseFields_iff fields]
    simp [leafwise_object_iff]

theorem exists_leafwiseItems_iff (items : List Value) :
    (∃ others, LeafwiseItems R items others) ↔ ∀ s ∈ stringsOfItems items, ∃ t, R s t := by
  match items with
  | [] => exact ⟨fun _ => List.forall_mem_nil _, fun _ => ⟨_, .nil⟩⟩
  | v :: rest =>
    rw [stringsOfItems, List.forall_mem_append, ← exists_leafwise_iff v, ← exists_leafwiseItems_iff rest]
    simp [leafwiseItems_cons_iff]

theorem exists_leafwiseFields_iff (fields : Fields) :
    (∃ others, LeafwiseFields R fields others) ↔ ∀ s ∈ stringsOfFields fields, ∃ t, R s t := by
  match fields with
  | [] => exact ⟨fun _ => List.forall_mem_nil _, fun _ => ⟨_, .nil⟩⟩
  | (key, v) :: rest =>
    rw [stringsOfFields, List.forall_mem_append, ← exists_leafwise_iff v, ← exists_leafwiseFields_iff rest]
    simp [leafwiseFields_cons_iff]

end

mutual

/-- What a value is related to is related to itself when what its strings are related to is. -/
theorem Leafwise.of_right (fixed : ∀ s t, R s t → S t t) {v w : Value} (related : Leafwise R v w) :
    Leafwise S w w := by
  match related with
  | .null => exact .null
  | .bool b => exact .bool b
  | .int n => exact .int n
  | .float x => exact .float x
  | .string here => exact .string (fixed _ _ here)
  | .array each => exact .array (LeafwiseItems.of_right fixed each)
  | .object each => exact .object (LeafwiseFields.of_right fixed each)

theorem LeafwiseItems.of_right (fixed : ∀ s t, R s t → S t t) {items others : List Value}
    (related : LeafwiseItems R items others) : LeafwiseItems S others others := by
  match related with
  | .nil => exact .nil
  | .cons first rest => exact .cons (Leafwise.of_right fixed first) (LeafwiseItems.of_right fixed rest)

theorem LeafwiseFields.of_right (fixed : ∀ s t, R s t → S t t) {fields others : Fields}
    (related : LeafwiseFields R fields others) : LeafwiseFields S others others := by
  match related with
  | .nil => exact .nil
  | .cons first rest => exact .cons (Leafwise.of_right fixed first) (LeafwiseFields.of_right fixed rest)

end

namespace LeafwiseFields

variable {fields others patch patch' : Fields} {key : String} {v w : Value}

theorem keys_eq (related : LeafwiseFields R fields others) : others.map (·.1) = fields.map (·.1) := by
  induction fields generalizing others with
  | nil =>
    cases related
    rfl
  | cons field fields ih =>
    cases related with
    | cons first rest => rw [List.map_cons, List.map_cons, ih rest]

/-- A value under a key is related to what stands under that key. -/
theorem exists_get? (related : LeafwiseFields R fields others) (here : Fields.get? key fields = some v) :
    ∃ w, Leafwise R v w ∧ Fields.get? key others = some w := by
  induction fields generalizing others with
  | nil => cases here
  | cons field fields ih =>
    cases related with
    | @cons k _ _ _ _ first rest =>
      rw [Fields.get?_cons] at here ⊢
      by_cases same : k = key
      · rw [if_pos same] at here ⊢
        obtain rfl := Option.some.inj here
        exact ⟨_, first, rfl⟩
      · rw [if_neg same] at here ⊢
        exact ih rest here

protected theorem insert (related : LeafwiseFields R fields others) (value : Leafwise R v w) :
    LeafwiseFields R (Fields.insert key v fields) (Fields.insert key w others) := by
  induction fields generalizing others with
  | nil =>
    cases related
    exact .cons value .nil
  | cons field fields ih =>
    cases related with
    | cons first rest =>
      unfold Fields.insert
      split
      · exact .cons value (.cons first rest)
      · split
        · exact .cons value rest
        · exact .cons first (ih rest)

/-- Fields stay related when related fields are put over them. -/
protected theorem overlay (related : LeafwiseFields R fields others) (patched : LeafwiseFields R patch patch') :
    LeafwiseFields R (Fields.overlay fields patch) (Fields.overlay others patch') := by
  induction patch generalizing fields others patch' with
  | nil =>
    cases patched
    exact related
  | cons field patch ih =>
    cases patched with
    | cons first rest =>
      rw [Fields.overlay_cons, Fields.overlay_cons]
      exact ih (related.insert first) rest

end LeafwiseFields

end CanvasScript.Json.Value
