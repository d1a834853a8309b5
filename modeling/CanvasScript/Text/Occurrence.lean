/-!
# Occurrences of one text in another

`replace` puts a text in place of every occurrence of a key, from left to right
and without overlap. A text in which the key does not occur stays as it is.
-/

namespace CanvasScript.Text

/-- The key occurs somewhere in the text. -/
def occurs (key : List Char) : List Char → Bool
  | [] => key.isEmpty
  | c :: text => key.isPrefixOf (c :: text) || occurs key text

theorem occurs_iff {key text : List Char} : occurs key text = true ↔ key <:+: text := by
  induction text with
  | nil => simp [occurs]
  | cons c text ih => simp [occurs, ih, List.infix_cons_iff]

/-- The text behind its first `skip` characters with every occurrence of the key
replaced; an empty key has none. -/
def replaceFrom (key value : List Char) : (skip : Nat) → List Char → List Char
  | _, [] => []
  | skip + 1, _ :: text => replaceFrom key value skip text
  | 0, c :: text =>
    if !key.isEmpty && key.isPrefixOf (c :: text) then
      value ++ replaceFrom key value (key.length - 1) text
    else c :: replaceFrom key value 0 text

/-- Every occurrence of the key replaced by the value. -/
def replace (key value text : List Char) : List Char := replaceFrom key value 0 text

/-- Nothing is replaced where the key does not occur. -/
theorem replace_of_not_occurs {key value text : List Char} (h : occurs key text = false) :
    replace key value text = text := by
  induction text with
  | nil => rfl
  | cons c text ih =>
    simp only [occurs, Bool.or_eq_false_iff] at h
    simpa [replace, replaceFrom, h.1] using ih h.2

end CanvasScript.Text
