import CanvasScript.Json.Writer
import CanvasScript.Proofs.Json.Fields

/-!
# Values with sorted fields

Two values are the same when they agree in all but the order of fields (`Value.Same`). Sorting
the fields of every object tells just that: the same values have one canonical value
(`Value.canonical_eq_iff`). So have values of which one is the other with its fields written in
another order, repeated keys keeping theirs (`Value.canonical_of_rearranged`).
-/

namespace CanvasScript.Json.Value

open Fields (get? ofList)

variable {v w : Value} {items others : List Value} {fields patch : Fields}

theorem canonicalItems_eq_map (items : List Value) : canonicalItems items = items.map canonical := by
  induction items with
  | nil => rfl
  | cons v rest ih => rw [canonicalItems, ih, List.map_cons]

theorem canonicalFields_eq_map (fields : Fields) :
    canonicalFields fields = fields.map fun field => (field.1, field.2.canonical) := by
  induction fields with
  | nil => rfl
  | cons field rest ih => rw [canonicalFields, ih, List.map_cons]

theorem canonical_array (items : List Value) : (array items).canonical = array (items.map canonical) := by
  rw [canonical, canonicalItems_eq_map]

theorem canonical_object (fields : Fields) :
    (object fields).canonical = object (ofList (fields.map fun field => (field.1, field.2.canonical))) := by
  rw [canonical, canonicalFields_eq_map]

/-- A value that JSON has: integers fit 64 bits, all other numbers are finite and no key of an
object stands twice. -/
inductive Proper : Value → Prop where
  | null : Proper null
  | bool (b : Bool) : Proper (bool b)
  | int {n : Int} (least : -(Binary64.int64Bound : Int) ≤ n) (most : n < UInt64.size) : Proper (int n)
  | float {x : Binary64} (finite : x.isFinite = true) : Proper (float x)
  | string (s : String) : Proper (string s)
  | array {items : List Value} (each : ∀ v ∈ items, Proper v) : Proper (array items)
  | object {fields : Fields} (distinct : fields.Distinct) (each : ∀ field ∈ fields, Proper field.2) :
    Proper (object fields)

/-- Two values are one: objects have the same keys with the same values, in any order, and
numbers are the same bit for bit. -/
inductive Same : Value → Value → Prop where
  | null : Same null null
  | bool (b : Bool) : Same (bool b) (bool b)
  | int (n : Int) : Same (int n) (int n)
  | float (x : Binary64) : Same (float x) (float x)
  | string (s : String) : Same (string s) (string s)
  | array {items others : List Value} (length : items.length = others.length)
    (each : ∀ (i : Nat) (v w : Value), items[i]? = some v → others[i]? = some w → Same v w) :
    Same (array items) (array others)
  | object {fields others : Fields} (keys : ∀ key, (get? key fields).isSome = (get? key others).isSome)
    (each : ∀ (key : String) (v w : Value), get? key fields = some v → get? key others = some w → Same v w) :
    Same (object fields) (object others)

theorem canonical_object_of_sorted (sorted : fields.Sorted) :
    (object fields).canonical = object (fields.map fun field => (field.1, field.2.canonical)) := by
  have sorted' : Fields.Sorted (fields.map fun field => (field.1, field.2.canonical)) := List.pairwise_map.2 sorted
  rw [canonical_object, Fields.ofList_of_sorted sorted']

/-- What is found under a key of an object with distinct keys, once its fields are sorted. -/
theorem get?_canonical (distinct : fields.Distinct) (key : String) :
    get? key (ofList (fields.map fun field => (field.1, field.2.canonical))) = (get? key fields).map canonical := by
  have distinct' : Fields.Distinct (fields.map fun field => (field.1, field.2.canonical)) := by
    rw [Fields.Distinct, List.map_map]
    exact distinct
  rw [Fields.get?_ofList_of_distinct distinct', Fields.get?_map]

/-- Objects have one canonical value when what is found under each key has. -/
theorem canonical_object_eq_iff (distinct : fields.Distinct) (distinct' : patch.Distinct) :
    (object fields).canonical = (object patch).canonical ↔
      ∀ key, (get? key fields).map canonical = (get? key patch).map canonical := by
  rw [canonical_object, canonical_object, object.injEq]
  constructor
  · intro same key
    rw [← get?_canonical distinct, ← get?_canonical distinct', same]
  · intro same
    refine Fields.eq_of_get? (Fields.sorted_ofList _) (Fields.sorted_ofList _) fun key => ?_
    rw [get?_canonical distinct, get?_canonical distinct', same]

/-- Two values that may be there have one canonical value when both or neither are there and
they have one. -/
theorem map_canonical_eq {first second : Option Value} (both : first.isSome = second.isSome)
    (each : ∀ v w, first = some v → second = some w → v.canonical = w.canonical) :
    first.map canonical = second.map canonical := by
  cases first with
  | none =>
    cases second with
    | none => rfl
    | some w => cases both
  | some v =>
    cases second with
    | none => cases both
    | some w => exact congrArg some (each v w rfl rfl)

theorem canonical_of_same (same : Same v w) (proper : Proper v) (proper' : Proper w) :
    v.canonical = w.canonical := by
  induction same with
  | null | bool | int | float | string => rfl
  | @array items others length each ih =>
    cases proper with
    | array inside =>
    cases proper' with
    | array inside' =>
    rw [canonical_array, canonical_array]
    refine congrArg Value.array (List.ext_getElem? fun i => ?_)
    rw [List.getElem?_map, List.getElem?_map]
    refine map_canonical_eq ?_ fun v w here there => ?_
    · rw [Bool.eq_iff_iff]
      simp [length]
    · exact ih i v w here there (inside v (List.mem_of_getElem? here)) (inside' w (List.mem_of_getElem? there))
  | @object fields others keys each ih =>
    cases proper with
    | object distinct inside =>
    cases proper' with
    | object distinct' inside' =>
    rw [canonical_object_eq_iff distinct distinct']
    intro key
    refine map_canonical_eq (keys key) fun v w here there => ?_
    exact ih key v w here there (inside _ (Fields.mem_of_get? here)) (inside' _ (Fields.mem_of_get? there))

theorem same_of_canonical (proper : Proper v) (proper' : Proper w) (same : v.canonical = w.canonical) :
    Same v w := by
  induction proper generalizing w with
  | null =>
    cases w <;> cases same
    exact .null
  | bool b =>
    cases w <;> cases same
    exact .bool b
  | @int n =>
    cases w <;> cases same
    exact .int n
  | @float x =>
    cases w <;> cases same
    exact .float x
  | string s =>
    cases w <;> cases same
    exact .string s
  | @array items inside ih =>
    cases proper' with
    | @array others inside' =>
      rw [canonical_array, canonical_array, array.injEq] at same
      have length : items.length = others.length := by simpa using congrArg List.length same
      refine .array length fun i v w here there => ?_
      have both := congrArg (fun list : List Value => list[i]?) same
      simp only [List.getElem?_map, here, there, Option.map_some, Option.some.injEq] at both
      exact ih v (List.mem_of_getElem? here) (inside' w (List.mem_of_getElem? there)) both
    | _ =>
      rw [canonical_array] at same
      cases same
  | @object fields distinct inside ih =>
    cases proper' with
    | @object others distinct' inside' =>
      have found := (canonical_object_eq_iff distinct distinct').1 same
      refine .object (fun key => ?_) fun key v w here there => ?_
      · rw [← Option.isSome_map (f := canonical), found, Option.isSome_map]
      · have both := found key
        rw [here, there, Option.map_some, Option.map_some, Option.some.injEq] at both
        exact ih (key, v) (Fields.mem_of_get? here) (inside' _ (Fields.mem_of_get? there)) both
    | _ =>
      rw [canonical_object] at same
      cases same

/-- Sorting the fields of every object tells values apart just as far as they are not the same. -/
theorem canonical_eq_iff (proper : Proper v) (proper' : Proper w) : v.canonical = w.canonical ↔ Same v w :=
  ⟨same_of_canonical proper proper', fun same => canonical_of_same same proper proper'⟩

/-- Sorting fields keeps a value proper. -/
theorem Proper.canonical (proper : Proper v) : Proper v.canonical := by
  induction proper with
  | null => exact .null
  | bool b => exact .bool b
  | int least most => exact .int least most
  | float finite => exact .float finite
  | string s => exact .string s
  | array _ ih =>
    rw [canonical_array]
    refine .array fun w mem => ?_
    obtain ⟨v, inside, rfl⟩ := List.mem_map.1 mem
    exact ih v inside
  | @object fields distinct _ ih =>
    rw [canonical_object]
    refine .object (Fields.sorted_ofList _).distinct fun field mem => ?_
    obtain ⟨key, w⟩ := field
    have found := (Fields.mem_iff_get? (Fields.sorted_ofList _).distinct).1 mem
    rw [get?_canonical distinct] at found
    obtain ⟨v, here, rfl⟩ := Option.map_eq_some_iff.1 found
    exact ih (key, v) (Fields.mem_of_get? here)

/-- Sorted fields are sorted already. -/
theorem canonical_canonical (v : Value) : v.canonical.canonical = v.canonical := by
  match v with
  | .null | .bool _ | .int _ | .float _ | .string _ => rfl
  | .array items =>
    have inside (w : Value) (mem : w ∈ items) : w.canonical.canonical = w.canonical := canonical_canonical w
    rw [canonical_array, canonical_array, List.map_map]
    exact congrArg Value.array (List.map_congr_left inside)
  | .object fields =>
    have inside (field : String × Value) (mem : field ∈ fields) :
        field.2.canonical.canonical = field.2.canonical := canonical_canonical field.2
    have sorted := Fields.sorted_ofList (fields.map fun field => (field.1, field.2.canonical))
    rw [canonical_object, canonical_object_of_sorted sorted]
    refine congrArg Value.object ((List.map_congr_left fun field mem => ?_).trans (List.map_id _))
    obtain ⟨key, w⟩ := field
    have found := Fields.mem_of_mem_ofList mem
    obtain ⟨⟨key', v⟩, mem', same⟩ := List.mem_map.1 found
    obtain ⟨rfl, rfl⟩ := Prod.mk.inj same
    exact congrArg (Prod.mk key') (inside (key', v) mem')
termination_by sizeOf v
decreasing_by
  · have := List.sizeOf_lt_of_mem mem
    simp only [Value.array.sizeOf_spec]
    omega
  · have := List.sizeOf_lt_of_mem mem
    obtain ⟨key, w⟩ := field
    simp only [Value.object.sizeOf_spec, Prod.mk.sizeOf_spec] at this ⊢
    omega

/-- One value is the other with fields in another order: neighbours with different keys may be
exchanged, at any depth. -/
inductive Rearranged : Value → Value → Prop where
  | refl (v : Value) : Rearranged v v
  | trans {u v w : Value} (first : Rearranged u v) (second : Rearranged v w) : Rearranged u w
  | item {v w : Value} (before after : List Value) (inside : Rearranged v w) :
    Rearranged (array (before ++ v :: after)) (array (before ++ w :: after))
  | field {v w : Value} (before : Fields) (key : String) (after : Fields) (inside : Rearranged v w) :
    Rearranged (object (before ++ (key, v) :: after)) (object (before ++ (key, w) :: after))
  | swap {key other : String} (apart : key ≠ other) (before : Fields) (v w : Value) (after : Fields) :
    Rearranged (object (before ++ (key, v) :: (other, w) :: after))
      (object (before ++ (other, w) :: (key, v) :: after))

theorem canonical_of_rearranged (rearranged : Rearranged v w) : v.canonical = w.canonical := by
  induction rearranged with
  | refl v => rfl
  | trans _ _ first second => exact first.trans second
  | item before after _ ih =>
    rw [canonical_array, canonical_array, List.map_append, List.map_append, List.map_cons, List.map_cons, ih]
  | field before key after _ ih =>
    rw [canonical_object, canonical_object, List.map_append, List.map_append, List.map_cons, List.map_cons, ih]
  | swap apart before v w after =>
    rw [canonical_object, canonical_object, List.map_append, List.map_append, List.map_cons, List.map_cons,
      List.map_cons, List.map_cons, Fields.ofList_swap apart]

end CanvasScript.Json.Value
