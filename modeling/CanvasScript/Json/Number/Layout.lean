import CanvasScript.Decimal.Shortest

/-!
# How a number is written

Numbers from `0.00001` to below `1e+16` are written out in full.
-/

namespace CanvasScript.Json

/-- The bounds of the numbers that are written without an exponent. -/
def layout : Decimal.Layout := { large := 16, small := -5 }

/-- An integer in decimal digits. -/
def intChars (n : Int) : List Char :=
  (if n < 0 then ['-'] else []) ++ Decimal.digitChars n.natAbs

/-- A finite floating-point number; one that is not finite has no text and is null. -/
def floatChars (x : Binary64) : List Char :=
  if x.isFinite then x.chars layout else ['n', 'u', 'l', 'l']

example : String.ofList (floatChars (Binary64.ofInt 1024)) = "1024.0" := by decide +kernel

example : String.ofList (floatChars (Decimal.nearest true { digits := 15, exponent := 299 })) = "-1.5e+300" := by
  decide +kernel

example : String.ofList (floatChars (Decimal.nearest false { digits := 1, exponent := -5 })) = "0.00001" := by
  decide +kernel

end CanvasScript.Json
