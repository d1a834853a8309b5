import CanvasScript.Proofs.Json.Canonical
import Mathlib.Data.List.Lex

/-!
# Places inside values

A place is told by the way to it, hop by hop (`Value.at?`). What is right inside a value is
listed in the order of keys and positions (`Value.pairwise_inside`), once for every hop that
leads somewhere (`Value.mem_inside_iff`). Of two places the one that comes first depth first
has the way that comes first hop by hop (`Precedes`).
-/

namespace CanvasScript.Json

/-- A way from a value to one right inside it. -/
inductive Hop where
  | field (key : String)
  | item (position : Nat)
  deriving DecidableEq

namespace Hop

/-- Fields come in the order of their keys and elements in that of their positions. -/
inductive Before : Hop → Hop → Prop where
  | field {key other : String} (less : key < other) : Before (.field key) (.field other)
  | item {position other : Nat} (less : position < other) : Before (.item position) (.item other)

theorem Before.ne {hop other : Hop} (before : hop.Before other) : hop ≠ other := by
  cases before with
  | field less => exact fun same => less.ne (Hop.field.inj same)
  | item less => exact fun same => less.ne (Hop.item.inj same)

end Hop

/-- One place is come to before another, depth first. -/
abbrev Precedes : List Hop → List Hop → Prop := List.Lex Hop.Before

theorem Precedes.ne {way other : List Hop} (precedes : Precedes way other) : way ≠ other := by
  induction precedes with
  | nil => exact (List.cons_ne_nil _ _).symm
  | rel before => exact fun same => before.ne (List.cons.inj same).1
  | cons _ ih => exact fun same => ih (List.cons.inj same).2

namespace Value

/-- What is right inside a value, and on which hop. -/
def inside : Value → List (Hop × Value)
  | object fields => fields.map fun field => (.field field.1, field.2)
  | array items => items.zipIdx.map fun element => (.item element.2, element.1)
  | _ => []

/-- What a hop leads to. -/
def step? : Value → Hop → Option Value
  | object fields, .field key => Fields.get? key fields
  | array items, .item position => items[position]?
  | _, _ => none

/-- What stands at the end of a way. -/
def at? (v : Value) (way : List Hop) : Option Value := way.foldlM step? v

variable {v w : Value} {hop : Hop} {way : List Hop}

theorem at?_nil (v : Value) : v.at? [] = some v := rfl

theorem at?_cons (v : Value) (hop : Hop) (way : List Hop) :
    v.at? (hop :: way) = (v.step? hop).bind fun w => w.at? way := List.foldlM_cons

section Sorted

variable {fields : Fields} {items : List Value}

theorem sorted_of_canonical (canonical : (object fields).canonical = object fields) : fields.Sorted := by
  rw [canonical_object, object.injEq] at canonical
  exact canonical ▸ Fields.sorted_ofList _

theorem mem_of_mem_inside_array (mem : (hop, w) ∈ (array items).inside) : w ∈ items := by
  obtain ⟨element, listed, same⟩ := List.mem_map.1 mem
  cases same
  exact List.mem_of_getElem? (List.mem_zipIdx_iff_getElem?.1 listed)

theorem mem_of_mem_inside_object (mem : (hop, w) ∈ (object fields).inside) : ∃ key, (key, w) ∈ fields := by
  obtain ⟨field, listed, same⟩ := List.mem_map.1 mem
  cases same
  exact ⟨field.1, listed⟩

/-- Of a value with sorted fields all values inside have sorted fields. -/
theorem canonical_of_mem_inside (canonical : v.canonical = v) (mem : (hop, w) ∈ v.inside) : w.canonical = w := by
  cases v with
  | object fields =>
    obtain ⟨key, listed⟩ := mem_of_mem_inside_object mem
    rw [canonical_object_of_sorted (sorted_of_canonical canonical), object.injEq] at canonical
    have kept := List.map_inj_left.1 (canonical.trans (List.map_id fields).symm) (key, w) listed
    exact congrArg Prod.snd kept
  | array items =>
    rw [canonical_array, array.injEq] at canonical
    exact List.map_inj_left.1 (canonical.trans (List.map_id items).symm) w (mem_of_mem_inside_array mem)
  | _ => cases mem

/-- A hop leads to what is listed for it. -/
theorem mem_inside_iff (canonical : v.canonical = v) : (hop, w) ∈ v.inside ↔ v.step? hop = some w := by
  cases v with
  | object fields =>
    have distinct := (sorted_of_canonical canonical).distinct
    cases hop with
    | field key =>
      rw [step?, ← Fields.mem_iff_get? distinct, inside]
      simp
    | item position => simp [inside, step?]
  | array items =>
    cases hop with
    | field key => simp [inside, step?]
    | item position => simp [inside, step?, List.mem_zipIdx_iff_getElem?]
  | _ => exact ⟨nofun, nofun⟩

theorem pairwise_zipIdx {α : Type} (items : List α) : items.zipIdx.Pairwise fun here there => here.2 < there.2 := by
  have positions : (items.zipIdx.map Prod.snd).Pairwise (· < ·) := by
    rw [List.zipIdx_map_snd]
    exact List.pairwise_lt_range' 1
  exact List.pairwise_map.1 positions

theorem pairwise_inside (canonical : v.canonical = v) : v.inside.Pairwise fun here there => here.1.Before there.1 := by
  cases v with
  | object fields => exact List.pairwise_map.2 ((sorted_of_canonical canonical).imp .field)
  | array items => exact List.pairwise_map.2 ((pairwise_zipIdx items).imp .item)
  | _ => exact .nil

theorem Proper.of_mem_inside (proper : v.Proper) (mem : (hop, w) ∈ v.inside) : w.Proper := by
  cases proper with
  | array each => exact each w (mem_of_mem_inside_array mem)
  | object _ each =>
    obtain ⟨key, listed⟩ := mem_of_mem_inside_object mem
    exact each (key, w) listed
  | _ => cases mem

/-- What holds of a value once it holds of all values inside holds of every value that JSON has. -/
@[elab_as_elim]
theorem Proper.of_inside {motive : Value → Prop}
    (each : ∀ v : Value, (∀ hop w, (hop, w) ∈ v.inside → motive w) → motive v) (proper : v.Proper) : motive v := by
  induction proper with
  | array _ ih => exact each _ fun hop w mem => ih w (mem_of_mem_inside_array mem)
  | object _ _ ih =>
    refine each _ fun hop w mem => ?_
    obtain ⟨key, listed⟩ := mem_of_mem_inside_object mem
    exact ih (key, w) listed
  | _ => exact each _ nofun

end Sorted

end Value

end CanvasScript.Json
