import CanvasScript.ModelNames
import CanvasScript.Proofs.Json.Entries
import CanvasScript.Proofs.Json.Places
import Mathlib.Data.List.Perm.Subperm

/-!
# Where models are named

A script names a model where a configuration entry has, at any depth, a string in a field of a
certain name (`ModelUse.StandsIn`). The names that are collected are those of the uses above
which no field has such a name, in the order in which they stand and each once; they are the
names of all uses just when there are no others (`modelNames_complete_iff`).
-/

namespace CanvasScript

open Json (Value Hop Precedes)

/-- A hop to a field that may name a model. -/
def Json.Hop.namesModel : Hop → Bool
  | .field key => modelFields.contains key
  | .item _ => false

namespace Json.Value

/-- At the end of the way is a model name, a string in a field that may name one. -/
def NamesModel (v : Value) (way : List Hop) (name : String) : Prop :=
  v.at? way = some (.string name) ∧ ∃ hop, way.getLast? = some hop ∧ hop.namesModel = true

end Json.Value

/-- The way does not lead through a field that may itself name a model. -/
def IsOpen (way : List Hop) : Prop := ∀ hop ∈ way.dropLast, hop.namesModel = false

/-- A model that is named by an entry of a script, at the end of a way into its payload. -/
structure ModelUse where
  entry : Nat
  way : List Hop
  name : String

namespace ModelUse

/-- The entry is a configuration, and its payload has the name there. -/
def StandsIn (use : ModelUse) (entries : List Value) : Prop :=
  ∃ payload, entries[use.entry]? = some (.object [(Kind.config.key, payload)]) ∧
    payload.NamesModel use.way use.name

/-- One use stands before another: in an earlier entry, or earlier in the same one. -/
def Before (use other : ModelUse) : Prop := Precedes (.item use.entry :: use.way) (.item other.entry :: other.way)

end ModelUse

/-- The names are those of the uses with the property, each use once, in the order in which they stand. -/
def Collects (wanted : ModelUse → Prop) (names : List String) : Prop :=
  ∃ uses : List ModelUse, (∀ use, use ∈ uses ↔ wanted use) ∧ uses.Pairwise ModelUse.Before ∧
    names = uses.map ModelUse.name

section Payloads

variable {v w : Value} {hop : Hop} {way : List Hop} {name : String}

theorem modelsInItems_eq (items : List Value) : modelsInItems items = items.flatMap modelsIn := by
  induction items with
  | nil => rfl
  | cons v rest ih => rw [modelsInItems, ih, List.flatMap_cons]

theorem modelsInFields_eq (fields : Json.Fields) :
    modelsInFields fields =
      fields.flatMap fun field => if modelFields.contains field.1 then field.2.string?.toList else modelsIn field.2 := by
  induction fields with
  | nil => rfl
  | cons field rest ih => rw [modelsInFields, ih, List.flatMap_cons]

theorem flatMap_zipIdx {α β : Type} (items : List α) (f : α → List β) :
    items.zipIdx.flatMap (fun item => f item.1) = items.flatMap f := by
  rw [← List.flatMap_map, List.zipIdx_map_fst]

/-- The names right inside a value and further inside, one hop after the other. -/
theorem modelsIn_eq (v : Value) :
    modelsIn v = v.inside.flatMap fun child =>
      if child.1.namesModel then child.2.string?.toList else modelsIn child.2 := by
  cases v with
  | object fields => rw [modelsIn, modelsInFields_eq, Value.inside, List.flatMap_map]; rfl
  | array items =>
    rw [modelsIn, modelsInItems_eq, Value.inside, List.flatMap_map, ← flatMap_zipIdx]
    rfl
  | _ => rfl

/-- The names inside a value in the order in which they are found, with the ways to them. -/
structure Finds (v : Value) (found : List (List Hop × String)) : Prop where
  names : found.map Prod.snd = modelsIn v
  each : ∀ way name, (way, name) ∈ found ↔ v.NamesModel way name ∧ IsOpen way
  order : found.Pairwise fun here there => Precedes here.1 there.1

theorem not_namesModel_nil : ¬v.NamesModel [] name := by
  rintro ⟨-, hop, last, -⟩
  cases last

/-- An open way to a model name ends at the first field that may name one. -/
theorem namesModel_cons_iff (canonical : v.canonical = v) :
    v.NamesModel (hop :: way) name ∧ IsOpen (hop :: way) ↔
      ∃ w, (hop, w) ∈ v.inside ∧
        if hop.namesModel then way = [] ∧ w = .string name else w.NamesModel way name ∧ IsOpen way := by
  have leads : v.at? (hop :: way) = some (.string name) ↔ ∃ w, (hop, w) ∈ v.inside ∧ w.at? way = some (.string name) := by
    simp only [Value.at?_cons, Option.bind_eq_some_iff, Value.mem_inside_iff canonical]
  unfold Value.NamesModel IsOpen
  rw [leads]
  cases way with
  | nil =>
    by_cases names : hop.namesModel = true
    · simp [names, Value.at?_nil]
    · simp [names]
  | cons next rest =>
    by_cases names : hop.namesModel = true
    · simp [names]
    · simp only [List.getLast?_cons_cons, List.dropLast_cons_cons, List.forall_mem_cons, names]
      constructor
      · rintro ⟨⟨⟨w, mem, stands⟩, last⟩, -, isOpen⟩
        exact ⟨w, mem, ⟨stands, last⟩, isOpen⟩
      · rintro ⟨w, mem, ⟨stands, last⟩, isOpen⟩
        exact ⟨⟨⟨w, mem, stands⟩, last⟩, trivial, isOpen⟩

/-- What is found right behind a hop, or further inside. -/
def foundBehind (further : Hop × Value → List (List Hop × String)) (child : Hop × Value) : List (List Hop × String) :=
  if child.1.namesModel then child.2.string?.toList.map fun name => ([child.1], name)
  else (further child).map fun found => (child.1 :: found.1, found.2)

theorem mem_foundBehind_iff {further : Hop × Value → List (List Hop × String)} {child : Hop × Value} :
    (way, name) ∈ foundBehind further child ↔
      ∃ rest, way = child.1 :: rest ∧
        if child.1.namesModel then rest = [] ∧ child.2 = .string name else (rest, name) ∈ further child := by
  obtain ⟨hop, w⟩ := child
  unfold foundBehind
  split
  · cases w <;> simp [Value.string?, eq_comm, and_comm]
  · simp [List.mem_map, eq_comm, and_comm]

/-- The names inside a value are found hop by hop, if those inside its values are. -/
theorem Finds.of_inside {further : Hop × Value → List (List Hop × String)} (canonical : v.canonical = v)
    (finds : ∀ child ∈ v.inside, Finds child.2 (further child)) :
    Finds v (v.inside.flatMap (foundBehind further)) where
  names := by
    rw [modelsIn_eq, List.map_flatMap]
    refine List.flatMap_congr fun child mem => ?_
    unfold foundBehind
    split
    · simp
    · simp only [List.map_map]
      exact (finds child mem).names
  each way name := by
    rw [List.mem_flatMap]
    cases way with
    | nil =>
      constructor
      · rintro ⟨child, -, mem⟩
        obtain ⟨rest, ⟨⟩, -⟩ := mem_foundBehind_iff.1 mem
      · rintro ⟨names, -⟩
        exact absurd names not_namesModel_nil
    | cons hop way =>
      rw [namesModel_cons_iff canonical]
      constructor
      · rintro ⟨child, mem, found⟩
        obtain ⟨rest, ⟨⟩, there⟩ := mem_foundBehind_iff.1 found
        refine ⟨child.2, mem, ?_⟩
        rwa [(finds child mem).each] at there
      · rintro ⟨w, mem, there⟩
        refine ⟨(hop, w), mem, mem_foundBehind_iff.2 ⟨way, rfl, ?_⟩⟩
        rwa [(finds _ mem).each]
  order := by
    refine List.pairwise_flatMap.2 ⟨fun child mem => ?within, (Value.pairwise_inside canonical).imp fun before => ?_⟩
    case within =>
      unfold foundBehind
      split
      · cases child.2.string? with
        | none => exact .nil
        | some name => exact List.pairwise_singleton _ _
      · exact List.pairwise_map.2 ((finds child mem).order.imp .cons)
    · rintro ⟨way, name⟩ found ⟨other, name'⟩ found'
      obtain ⟨rest, rfl, -⟩ := mem_foundBehind_iff.1 found
      obtain ⟨rest', rfl, -⟩ := mem_foundBehind_iff.1 found'
      exact .rel before

theorem exists_finds (proper : v.Proper) : v.canonical = v → ∃ found, Finds v found := by
  refine Value.Proper.of_inside (fun v ih canonical => ?_) proper
  have inside (child : Hop × Value) (mem : child ∈ v.inside) : ∃ found, Finds child.2 found :=
    ih child.1 child.2 mem (Value.canonical_of_mem_inside canonical mem)
  choose! further finds using inside
  exact ⟨_, Finds.of_inside canonical finds⟩

end Payloads

section Entries

variable {entry : Value} {entries : List Value}

theorem ModelUse.Before.ne {use other : ModelUse} (before : use.Before other) : use ≠ other := by
  rintro rfl
  exact Precedes.ne before rfl

theorem modelsOfEntry_config (payload : Value) :
    modelsOfEntry (.object [(Kind.config.key, payload)]) = modelsIn payload := by
  simp [modelsOfEntry, splitEntry]

theorem modelsOfEntry_other (other : ∀ payload, entry ≠ .object [(Kind.config.key, payload)]) :
    modelsOfEntry entry = [] := by
  unfold modelsOfEntry
  split
  next key payload split =>
    refine if_neg ?_
    rintro rfl
    exact other payload (splitEntry_eq_ok_iff.1 split)
  next => rfl

/-- The names in one entry of a script are those of its open uses. -/
theorem exists_uses_of_entry (position : Nat) (proper : entry.Proper) (canonical : entry.canonical = entry) :
    ∃ uses : List ModelUse, uses.map ModelUse.name = modelsOfEntry entry ∧
      (∀ use, use ∈ uses ↔ use.entry = position ∧ IsOpen use.way ∧
        ∃ payload, entry = .object [(Kind.config.key, payload)] ∧ payload.NamesModel use.way use.name) ∧
      uses.Pairwise ModelUse.Before := by
  by_cases config : ∃ payload, entry = .object [(Kind.config.key, payload)]
  · obtain ⟨payload, rfl⟩ := config
    have inside : (Hop.field Kind.config.key, payload) ∈ (Value.object [(Kind.config.key, payload)]).inside := by
      simp [Value.inside]
    obtain ⟨found, finds⟩ := exists_finds (proper.of_mem_inside inside) (Value.canonical_of_mem_inside canonical inside)
    refine ⟨found.map fun place => ⟨position, place.1, place.2⟩, ?names, ?each, ?order⟩
    case names =>
      rw [modelsOfEntry_config, ← finds.names, List.map_map]
      rfl
    case each =>
      rintro ⟨e, way, name⟩
      simp only [List.mem_map, Prod.exists, ModelUse.mk.injEq, finds.each]
      constructor
      · rintro ⟨_, _, ⟨names, isOpen⟩, rfl, rfl, rfl⟩
        exact ⟨rfl, isOpen, payload, rfl, names⟩
      · rintro ⟨rfl, isOpen, payload, same, names⟩
        cases same
        exact ⟨way, name, ⟨names, isOpen⟩, rfl, rfl, rfl⟩
    case order => exact List.pairwise_map.2 (finds.order.imp .cons)
  · refine ⟨[], ?_, fun use => ⟨(absurd · List.not_mem_nil), ?_⟩, .nil⟩
    · rw [modelsOfEntry_other (not_exists.1 config)]
      rfl
    · rintro ⟨-, -, payload, same, -⟩
      exact absurd ⟨payload, same⟩ config

/-- The names that are collected from a script are those of its open uses. -/
theorem collects_open (sorted : ∀ entry ∈ entries, entry.Proper ∧ entry.canonical = entry) :
    Collects (fun use => use.StandsIn entries ∧ IsOpen use.way) (modelNames entries) := by
  have each (entry : Value × Nat) (mem : entry ∈ entries.zipIdx) :=
    have among := List.mem_of_getElem? (List.mem_zipIdx_iff_getElem?.1 mem)
    exists_uses_of_entry entry.2 (sorted entry.1 among).1 (sorted entry.1 among).2
  choose! uses names listed order using each
  refine ⟨entries.zipIdx.flatMap uses, fun use => ?_, ?_, ?_⟩
  · simp only [List.mem_flatMap]
    constructor
    · rintro ⟨entry, mem, among⟩
      obtain ⟨same, isOpen, payload, config, stands⟩ := (listed entry mem use).1 among
      exact ⟨⟨payload, by rw [same, List.mem_zipIdx_iff_getElem?.1 mem, config], stands⟩, isOpen⟩
    · rintro ⟨⟨payload, found, stands⟩, isOpen⟩
      have mem : (_, use.entry) ∈ entries.zipIdx := List.mem_zipIdx_iff_getElem?.2 found
      exact ⟨_, mem, (listed _ mem use).2 ⟨rfl, isOpen, payload, rfl, stands⟩⟩
  · refine List.pairwise_flatMap.2 ⟨order, (Value.pairwise_zipIdx entries).imp_of_mem ?_⟩
    intro entry later mem mem' less use among other among'
    obtain ⟨same, -⟩ := (listed entry mem use).1 among
    obtain ⟨same', -⟩ := (listed later mem' other).1 among'
    exact .rel (.item (by rwa [same, same']))
  · rw [List.map_flatMap, List.flatMap_congr names, flatMap_zipIdx, modelNames]

theorem ModelUse.nodup_of_pairwise {uses : List ModelUse} (order : uses.Pairwise ModelUse.Before) : uses.Nodup :=
  order.imp ModelUse.Before.ne

/-- Names that are collected of the uses with a property are not those of fewer uses. -/
theorem Collects.of_imp {wanted narrower : ModelUse → Prop} {names : List String} (all : Collects wanted names)
    (some : Collects narrower names) (imp : ∀ use, narrower use → wanted use) (use : ModelUse) (want : wanted use) :
    narrower use := by
  obtain ⟨uses, listed, order, same⟩ := all
  obtain ⟨fewer, listed', order', same'⟩ := some
  have contained : fewer ⊆ uses := fun use mem => (listed use).2 (imp use ((listed' use).1 mem))
  have long : uses.length ≤ fewer.length := by
    have lengths := congrArg List.length (same.symm.trans same')
    simpa using lengths.le
  have perm := (List.subperm_of_subset (ModelUse.nodup_of_pairwise order') contained).perm_of_length_le long
  exact (listed' use).1 (perm.mem_iff.2 ((listed use).2 want))

/-- The names that are collected are those of the uses above which no field may name a model, in the order in
which they stand. No other use has its name collected, so they are the names of all uses just when there is no
other use. -/
theorem modelNames_complete_iff (entries : List Value)
    (sorted : ∀ entry ∈ entries, entry.Proper ∧ entry.canonical = entry) :
    Collects (fun use => use.StandsIn entries ∧ IsOpen use.way) (modelNames entries) ∧
      (Collects (fun use => use.StandsIn entries) (modelNames entries) ↔
        ∀ use : ModelUse, use.StandsIn entries → IsOpen use.way) := by
  have opened := collects_open sorted
  refine ⟨opened, fun all use stands => ?complete, fun isOpen => ?sound⟩
  case complete => exact (all.of_imp opened (fun _ => And.left) use stands).2
  case sound =>
    obtain ⟨uses, listed, order, names⟩ := opened
    exact ⟨uses, fun use => (listed use).trans (and_iff_left_of_imp (isOpen use)), order, names⟩

/-- A model with its file inside, and one that is itself a name. -/
def fileInsideModel : List Value :=
  [.object [(Kind.config.key, .object [("model", .object [("file", .string "x")]), ("upscaler", .string "y")])]]

theorem modelNames_complete_iff_fileInsideModel :
    (∀ entry ∈ fileInsideModel, entry.Proper ∧ entry.canonical = entry) ∧
      Collects (fun use => use.StandsIn fileInsideModel ∧ IsOpen use.way) ["y"] := by
  have sorted : ∀ entry ∈ fileInsideModel, entry.Proper ∧ entry.canonical = entry := by
    intro entry mem
    obtain rfl := List.mem_singleton.1 mem
    have file : (Value.object [("file", .string "x")]).Proper :=
      .object (by decide) (List.forall_mem_singleton.2 (.string "x"))
    have payload : (Value.object [("model", .object [("file", .string "x")]), ("upscaler", .string "y")]).Proper :=
      .object (by decide) (List.forall_mem_cons.2 ⟨file, List.forall_mem_singleton.2 (.string "y")⟩)
    exact ⟨.object (by decide) (List.forall_mem_singleton.2 payload), rfl⟩
  exact ⟨sorted, (modelNames_complete_iff fileInsideModel sorted).1⟩

/-- The name of the file inside the model is not collected. -/
theorem modelNames_incomplete_fileInsideModel :
    ¬Collects (fun use => use.StandsIn fileInsideModel) (modelNames fileInsideModel) := by
  rintro ⟨uses, listed, -, names⟩
  have hidden : ModelUse.StandsIn ⟨0, [.field "model", .field "file"], "x"⟩ fileInsideModel :=
    ⟨_, rfl, rfl, .field "file", rfl, by decide⟩
  have collected : "x" ∈ modelNames fileInsideModel :=
    names ▸ List.mem_map_of_mem ((listed _).2 hidden)
  exact absurd collected (by decide)

end Entries

end CanvasScript
