import CanvasScript.ModelNames
import CanvasScript.Rule

/-!
# Validation

Validating a script reports at most one violation for every entry, in the order
of the entries, and never stops early. A script is valid when there is none.
-/

namespace CanvasScript

/-- What validating a script tells. -/
structure Validation where
  /-- How many entries there are. -/
  count : Nat
  violations : List Violation
  models : List String

namespace Validation

def valid (v : Validation) : Bool := v.violations.isEmpty

def warnings (v : Validation) : List String := v.violations.map Violation.message

/-- What is wrong with the entry at a position. -/
def ofEntry (index : Nat) (entry : Json.Value) : Option Violation :=
  match splitEntry entry with
  | .ok (key, v) => Rule.firstObjection index key v
  | .error defect => some (.malformedEntry index defect)

/-- What is wrong with the entries from a position on. -/
def violationsFrom (index : Nat) : List Json.Value → List Violation
  | [] => []
  | entry :: entries => (ofEntry index entry).toList ++ violationsFrom (index + 1) entries

/-- The validation of a list of entries. -/
def ofEntries (entries : List Json.Value) : Validation where
  count := entries.length
  violations := violationsFrom 0 entries
  models := modelNames entries

/-- A text that cannot be read is one violation and no entries. -/
def ofMistake (m : Json.Mistake) : Validation where
  count := 0
  violations := [.malformedText m.message]
  models := []

/-- The validation of a text. -/
def ofText (text : String) : Validation :=
  match readEntries text with
  | .ok entries => ofEntries entries
  | .error m => ofMistake m

theorem violationsFrom_append (index : Nat) (first second : List Json.Value) :
    violationsFrom index (first ++ second) =
      violationsFrom index first ++ violationsFrom (index + first.length) second := by
  induction first generalizing index with
  | nil => simp [violationsFrom]
  | cons entry first ih => simp [violationsFrom, ih, Nat.add_comm, Nat.add_left_comm]

end Validation

end CanvasScript
