import Mathlib.Data.Rat.Floor
import CanvasScript.Scalar

/-!
# Rational scalars

The geometry of the canvas over the rationals, where nothing is rounded.
-/

namespace CanvasScript

instance : Scalar ℚ where
  decimal digits places := digits / 10 ^ places
  lt x y := decide (x < y)
  le x y := decide (x ≤ y)
  max := Max.max
  min := Min.min
  floor x := ⌊x⌋

end CanvasScript
