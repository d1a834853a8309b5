import CanvasScript.Text.LowerCase.Context
import CanvasScript.Text.LowerCase.Mapping

/-!
# Lower case of a text

Every character becomes its full lower case. A capital sigma becomes the final
form when it ends a word: a letter with case comes before it and none after it,
marks passed over.
-/

namespace CanvasScript.Text

/-- The nearest character that is not passed over has case. -/
def meetsCased (cs : List Char) : Bool :=
  match cs.dropWhile isCaseIgnorable with
  | [] => false
  | c :: _ => isCased c

/-- The lower case of a character; the dotted capital keeps its dot as a mark. -/
def lowerChar (c : Char) : List Char :=
  if c = 'İ' then ['i', '\u0307']
  else [((lowerCode? c.toNat).map Char.ofNat).getD c]

/-- Lower case of a text whose characters before it are given, the last first. -/
def lowerFrom (before : List Char) : List Char → List Char
  | [] => []
  | c :: rest =>
    (if c = 'Σ' then [if meetsCased before && !meetsCased rest then 'ς' else 'σ'] else lowerChar c) ++
      lowerFrom (c :: before) rest

/-- The lower case of a text. -/
def lower (text : String) : String := String.ofList (lowerFrom [] text.toList)

end CanvasScript.Text
