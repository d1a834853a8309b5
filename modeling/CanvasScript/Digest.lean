import CanvasScript.Digest.Sha256
import CanvasScript.Json.Writer

/-!
# Digests of scripts

Scripts that differ only in blanks or in the order of fields have one digest; the
order of entries always matters. The digest is taken of the canonical text of
every entry, each followed by a line end.
-/

namespace CanvasScript

open Json

/-- The canonical text of an entry. -/
def canonicalText (entry : Value) : String := entry.canonical.compact

/-- The bytes that a digest is taken of. -/
def digestBytes (entries : List Value) : List UInt8 :=
  entries.flatMap fun entry => (canonicalText entry).toUTF8.toList ++ [10]

/-- The digest of the entries of a script. -/
def scriptDigest (entries : List Value) : String := Sha256.hex (digestBytes entries)

end CanvasScript
