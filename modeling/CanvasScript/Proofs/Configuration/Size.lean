import CanvasScript.Configuration
import CanvasScript.Proofs.Binary64.Integers

/-!
# The size of a configuration

A finite length that is put into a configuration is read back as the same number, whether it
is kept as an integer or not (`number?_lengthValue`), so the size of a configuration is the one
that was put in (`size_setSize`).
-/

namespace CanvasScript

open Json (Value)

/-- A finite size has an inside when both lengths are positive. -/
theorem Size.isEmpty_eq_false_iff {size : Size Binary64} (width : size.width.isFinite = true)
    (height : size.height.isFinite = true) :
    size.isEmpty = false ↔ 0 < size.width.signedUnits ∧ 0 < size.height.signedUnits := by
  have above {x : Binary64} (finite : x.isFinite = true) : x.le Scalar.zero = false ↔ 0 < x.signedUnits := by
    have zero : (Scalar.zero : Binary64) = .zero := by decide
    rw [zero, ← Bool.not_eq_true, Binary64.le_iff finite Binary64.isFinite_zero, Binary64.signedUnits_zero, Int.not_le]
  rw [Size.isEmpty, Bool.or_eq_false_iff]
  exact and_congr (above width) (above height)

/-- The size with lengths that have one zero. -/
def Size.canonical (size : Size Binary64) : Size Binary64 where
  width := size.width.canonical
  height := size.height.canonical

namespace Configuration

/-- A finite length is read back. -/
theorem number?_lengthValue {x : Binary64} (finite : x.isFinite = true) : (lengthValue x).number? = some x.canonical := by
  unfold lengthValue
  split
  next whole =>
    obtain ⟨n, equals⟩ := Binary64.isWhole_iff.1 (Bool.and_eq_true_iff.1 whole).1
    rw [Binary64.truncated_of_equals equals, Value.number?, Binary64.ofInt_of_equals equals]
  next other =>
    have nonzero : x.isZero = false := by
      by_contra nothing
      have equals := Binary64.equals_zero_of_isZero (Bool.of_not_eq_false nothing)
      refine other (Bool.and_eq_true_iff.2 ⟨Binary64.isWhole_iff.2 ⟨0, equals⟩, ?_⟩)
      rw [Binary64.truncated_of_equals equals]
      decide
    rw [Value.ofBinary64, finite, if_pos rfl, Value.number?, Binary64.canonical_of_ne_zero nonzero]

theorem get?_set_of_ne {field name : String} (other : field ≠ name) (c : Configuration) (v : Value) :
    (c.set name v).get? field = c.get? field :=
  Json.Fields.get?_insert_of_ne other v c.fields

theorem get?_setSize_width (c : Configuration) (size : Size Binary64) :
    (c.setSize size).get? "width" = some (lengthValue size.width) := by
  rw [setSize, get?_set_of_ne (by decide)]
  exact Json.Fields.get?_insert_self _ _ _

theorem get?_setSize_height (c : Configuration) (size : Size Binary64) :
    (c.setSize size).get? "height" = some (lengthValue size.height) :=
  Json.Fields.get?_insert_self _ _ _

/-- The size that is put into a configuration is read back. -/
theorem size_setSize (c : Configuration) {size : Size Binary64} (width : size.width.isFinite = true)
    (height : size.height.isFinite = true) : (c.setSize size).size = size.canonical := by
  rw [Configuration.size, number, number, get?_setSize_width, get?_setSize_height, Option.bind_some, Option.bind_some,
    number?_lengthValue width, number?_lengthValue height]
  rfl

end Configuration

end CanvasScript
