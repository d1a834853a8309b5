import CanvasScript.Decimal

/-!
# Scalars

What the geometry of the canvas needs of its numbers. A run computes with
floating-point numbers; the same definitions over the rationals say what they
compute exactly.
-/

namespace CanvasScript

/-- Numbers with the operations and constants of the canvas's geometry. -/
class Scalar (α : Type) extends Add α, Sub α, Mul α, Div α where
  /-- The number nearest to `digits / 10 ^ places`. -/
  decimal (digits places : Nat) : α
  lt : α → α → Bool
  le : α → α → Bool
  max : α → α → α
  min : α → α → α
  floor : α → α

namespace Scalar

variable [Scalar α]

def zero : α := decimal 0 0

def one : α := decimal 1 0

def two : α := decimal 2 0

end Scalar

instance : Scalar Binary64 where
  add := Binary64.add
  sub := Binary64.sub
  mul := Binary64.mul
  div := Binary64.div
  decimal digits places := Decimal.nearest false { digits, exponent := -places }
  lt := Binary64.lt
  le := Binary64.le
  max := Binary64.max
  min := Binary64.min
  floor := Binary64.floor

end CanvasScript
