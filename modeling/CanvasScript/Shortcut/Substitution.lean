import CanvasScript.Shortcut.Passes
import CanvasScript.Shortcut.Table

/-!
# Substitution

A pass replaces the keys of a table by their texts, key after key in the order of
the table. Passes are repeated until one changes nothing, so that texts may hold
further keys.
-/

namespace CanvasScript.Shortcut

/-- Every occurrence of the key of an entry replaced by its text; an empty key has none. -/
def applyEntry (text : List Char) (entry : String × String) : List Char :=
  Text.replace entry.1.toList entry.2.toList text

/-- A pass over a text. -/
def substitutePass (table : Table) (text : List Char) : List Char := table.entries.foldl applyEntry text

/-- The text in which no key is left that a pass would change. -/
def substitute (limit : Limit) (table : Table) (text : List Char) : Resolving (List Char) :=
  limit.settle (fun text => pure (substitutePass table text)) text

end CanvasScript.Shortcut
