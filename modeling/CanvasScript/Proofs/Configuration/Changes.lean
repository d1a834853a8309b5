import CanvasScript.Proofs.Configuration.Size
import CanvasScript.Proofs.Json.Fields

/-!
# Sizes that stay in a configuration

A length is kept as an integer just when it is one below `2 ^ 63` in magnitude, and bit for bit as a
floating-point number otherwise (`Configuration.keptAs_lengthValue`). Later changes only touch the
fields that they name (`Configuration.get?_changed`), so the size that was put in is read back from
any configuration they lead to (`Configuration.setSize_stays`).
-/

namespace CanvasScript

open Json (Value Fields)

/-- Comparing finds no difference. The two zeros are one number for it. -/
def Binary64.SameAs (x y : Binary64) : Prop := x.le y = true ∧ y.le x = true

theorem Binary64.sameAs_canonical {x : Binary64} (finite : x.isFinite = true) : x.canonical.SameAs x := by
  have finite' := isFinite_canonical finite
  rw [SameAs, le_iff finite' finite, le_iff finite finite', signedUnits_canonical]
  exact ⟨Int.le_refl _, Int.le_refl _⟩

namespace Configuration

variable {c : Configuration} {field : String}

section Lengths

/-- How a length stands in a configuration. -/
structure KeptAs (x : Binary64) (v : Value) : Prop where
  int_iff : ∀ {n}, v = .int n ↔ x.Equals n ∧ n.natAbs < 2 ^ 63
  float_iff : ∀ {y}, v = .float y ↔ y = x ∧ ¬∃ n, x.Equals n ∧ n.natAbs < 2 ^ 63

/-- The condition under which a length is kept as an integer asks for just that. -/
theorem isWhole_and_small_iff {x : Binary64} :
    (x.isWhole && decide (x.truncated.natAbs < Binary64.int64Bound)) = true ↔
      ∃ n, x.Equals n ∧ n.natAbs < 2 ^ 63 := by
  rw [Bool.and_eq_true, Binary64.isWhole_iff, decide_eq_true_iff]
  constructor
  · rintro ⟨⟨n, equals⟩, small⟩
    rw [Binary64.truncated_of_equals equals] at small
    exact ⟨n, equals, small⟩
  · rintro ⟨n, equals, small⟩
    refine ⟨⟨n, equals⟩, ?_⟩
    rw [Binary64.truncated_of_equals equals]
    exact small

theorem keptAs_lengthValue {x : Binary64} (finite : x.isFinite = true) : KeptAs x (lengthValue x) := by
  unfold lengthValue
  split
  case isTrue whole =>
    obtain ⟨m, equals, small⟩ := isWhole_and_small_iff.1 whole
    have truncated {n : Int} (equals : x.Equals n) : x.truncated = n := Binary64.truncated_of_equals equals
    constructor
    · intro n
      rw [truncated equals, Value.int.injEq]
      constructor
      · rintro rfl
        exact ⟨equals, small⟩
      · rintro ⟨equals', -⟩
        rw [← truncated equals, truncated equals']
    · intro y
      constructor
      · intro same
        cases same
      · rintro ⟨-, none_small⟩
        exact absurd ⟨m, equals, small⟩ none_small
  case isFalse broken =>
    have none_small := mt isWhole_and_small_iff.2 broken
    rw [Value.ofBinary64, if_pos finite]
    constructor
    · intro n
      constructor
      · intro same
        cases same
      · intro both
        exact absurd ⟨n, both⟩ none_small
    · intro y
      rw [Value.float.injEq, eq_comm]
      exact ⟨fun same => ⟨same, none_small⟩, And.left⟩

end Lengths

section Changes

/-- The last value that is put under a field counts, and then the one that was there. -/
theorem get?_merge (c : Configuration) (patch : Fields) (field : String) :
    (c.merge patch).get? field = (Fields.get? field patch.reverse).or (c.get? field) :=
  Fields.get?_overlay c.fields patch field

theorem get?_merge_of_get? {patch : Fields} (sorted : patch.Sorted) {v : Value} (put : patch.get? field = some v)
    (c : Configuration) : (c.merge patch).get? field = some v := by
  rw [get?_merge, Fields.get?_reverse sorted.distinct, put, Option.some_or]

theorem get?_merge_of_not_mem {patch : Fields} (other : field ∉ patch.map (·.1)) (c : Configuration) :
    (c.merge patch).get? field = c.get? field :=
  Fields.get?_overlay_of_not_mem other c.fields

/-- The fields of the latent sizes, as they are put in. -/
def latentFields (tiers : LatentTiers) : Fields :=
  [("originalImageWidth", .int (latentSize tiers.source).1), ("originalImageHeight", .int (latentSize tiers.source).2),
    ("targetImageWidth", .int (latentSize tiers.target).1), ("targetImageHeight", .int (latentSize tiers.target).2),
    ("negativeOriginalImageWidth", .int (latentSize tiers.negative).1),
    ("negativeOriginalImageHeight", .int (latentSize tiers.negative).2)]

theorem setFrames_eq_merge (c : Configuration) (count : Value) : c.setFrames count = c.merge [("numFrames", count)] := rfl

theorem setSize_eq_merge (c : Configuration) (size : Size Binary64) :
    c.setSize size = c.merge [("width", lengthValue size.width), ("height", lengthValue size.height)] := rfl

theorem setLatentSizes_eq_merge (c : Configuration) (tiers : LatentTiers) :
    c.setLatentSizes tiers = c.merge (latentFields tiers) := rfl

/-- What may be done to a configuration after its size is set. -/
inductive Change where
  | merge (patch : Fields)
  | frames (count : Value)
  | latentSizes (tiers : LatentTiers)

/-- The configuration after a change. -/
def Change.make (c : Configuration) : Change → Configuration
  | merge patch => c.merge patch
  | frames count => c.setFrames count
  | latentSizes tiers => c.setLatentSizes tiers

/-- The fields that a change names. -/
def Change.names : Change → List String
  | merge patch => patch.map (·.1)
  | frames _ => ["numFrames"]
  | latentSizes _ => ["originalImageWidth", "originalImageHeight", "targetImageWidth", "targetImageHeight",
    "negativeOriginalImageWidth", "negativeOriginalImageHeight"]

/-- The configuration after changes, one after the other. -/
def changed (c : Configuration) (changes : List Change) : Configuration := changes.foldl Change.make c

/-- A change leaves the fields as they are that it does not name. -/
theorem Change.get?_make {change : Change} (other : field ∉ change.names) (c : Configuration) :
    (change.make c).get? field = c.get? field := by
  cases change with
  | merge patch => exact get?_merge_of_not_mem other c
  | frames count =>
    rw [make, setFrames_eq_merge]
    exact get?_merge_of_not_mem other c
  | latentSizes tiers =>
    rw [make, setLatentSizes_eq_merge]
    exact get?_merge_of_not_mem other c

/-- So do changes one after the other. -/
theorem get?_changed {changes : List Change} (others : ∀ change ∈ changes, field ∉ change.names)
    (c : Configuration) : (c.changed changes).get? field = c.get? field := by
  induction changes generalizing c with
  | nil => rfl
  | cons change changes ih =>
    obtain ⟨here, later⟩ := List.forall_mem_cons.1 others
    show ((change.make c).changed changes).get? field = _
    rw [ih later, Change.get?_make here]

end Changes

section Sizes

/-- The size of a configuration is told by its two fields. -/
theorem size_congr {d : Configuration} (width : c.get? "width" = d.get? "width")
    (height : c.get? "height" = d.get? "height") : c.size = d.size := by
  rw [Configuration.size, Configuration.size, number, number, number, number, width, height]

/-- A configuration has the size that was put into it: comparing finds no difference, and bit for
bit there is none but the sign of a zero. -/
structure HasSize (c : Configuration) (size : Size Binary64) : Prop where
  width_sameAs : c.size.width.SameAs size.width
  height_sameAs : c.size.height.SameAs size.height
  size_eq : c.size = size.canonical

/-- What putting a size into a configuration leads to. -/
structure SizeStays (before : Configuration) (size : Size Binary64) (after : Configuration) : Prop where
  width : ∃ v, after.get? "width" = some v ∧ KeptAs size.width v
  height : ∃ v, after.get? "height" = some v ∧ KeptAs size.height v
  hasSize : after.HasSize size
  others : ∀ {field}, field ≠ "width" → field ≠ "height" → after.get? field = before.get? field
  changed : ∀ {changes}, (∀ change ∈ changes, "width" ∉ Change.names change ∧ "height" ∉ change.names) →
    (after.changed changes).HasSize size

/-- **A finite size stays in a configuration** until a change names one of its fields. -/
theorem setSize_stays (c : Configuration) {size : Size Binary64} (width : size.width.isFinite = true)
    (height : size.height.isFinite = true) : SizeStays c size (c.setSize size) := by
  have hasSize {d : Configuration} (same : d.size = size.canonical) : d.HasSize size := by
    refine ⟨?_, ?_, same⟩
    · rw [same]
      exact Binary64.sameAs_canonical width
    · rw [same]
      exact Binary64.sameAs_canonical height
  have set := size_setSize c width height
  constructor
  case width => exact ⟨_, get?_setSize_width c size, keptAs_lengthValue width⟩
  case height => exact ⟨_, get?_setSize_height c size, keptAs_lengthValue height⟩
  case hasSize => exact hasSize set
  case others =>
    intro field notWidth notHeight
    rw [setSize, get?_set_of_ne notHeight, get?_set_of_ne notWidth]
  case changed =>
    intro changes others
    have wide := get?_changed (fun change mem => (others change mem).1) (c.setSize size)
    have high := get?_changed (fun change mem => (others change mem).2) (c.setSize size)
    exact hasSize ((size_congr wide high).trans set)

/-- A width just not below the bound is kept as it is and a zero as an integer, over a width that is no number. -/
theorem setSize_stays_atBound :
    let size : Size Binary64 := { width := .ofInt (-9223372036854775808), height := .neg .zero }
    let c : Configuration := { fields := [("seed", .int 7), ("width", .string "wide")] }
    let changes : List Change := [.merge [("lora", .null), ("seed", .int 8)], .frames (.int 16),
      .latentSizes { source := .zero, target := .zero, negative := .zero }]
    size.width.isFinite = true ∧ size.height.isFinite = true ∧
      (c.setSize size).get? "width" = some (.float size.width) ∧ (c.setSize size).get? "height" = some (.int 0) ∧
      (c.setSize size).get? "seed" = some (.int 7) ∧ ((c.setSize size).changed changes).HasSize size := by
  intro size c changes
  have width : size.width.isFinite = true := by decide +kernel
  have height : size.height.isFinite = true := by decide +kernel
  have stays := setSize_stays c width height
  have large : ¬∃ n, size.width.Equals n ∧ n.natAbs < 2 ^ 63 := by
    rintro ⟨n, equals, small⟩
    have cut : size.width.truncated = -9223372036854775808 := by decide +kernel
    rw [Binary64.truncated_of_equals equals] at cut
    omega
  obtain ⟨v, wide, kept⟩ := stays.width
  obtain ⟨w, high, kept'⟩ := stays.height
  refine ⟨width, height, ?_, ?_, stays.others (by decide) (by decide), stays.changed (by decide)⟩
  · rw [wide, kept.float_iff.2 ⟨rfl, large⟩]
  · have nothing : size.height.Equals 0 := Binary64.equals_zero_of_isZero (by decide)
    rw [high, kept'.int_iff.2 ⟨nothing, by decide⟩]

end Sizes

end Configuration

end CanvasScript
