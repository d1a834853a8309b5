import CanvasScript.Proofs.Binary64.Arithmetic
import CanvasScript.Scalar.Rational
import CanvasScript.View.Answer
import Mathlib.Tactic.Linarith

/-!
# Rectangles from shares of the canvas

Start and extent of a rectangle are rounded down each for itself. Over the rationals that is less than a pixel
below the exact place and within the canvas, whatever its size (`floorsShares`). Numbers that are rounded when
they are multiplied and subtracted may come out too large, but never by so much that whole pixels would leave
a canvas of fewer than `2 ^ 52` of them (`Binary64.inside_of_shares`).
-/

namespace CanvasScript

open Text (isAsciiDigit)

section Exact

/-- The exact value of a literal in digits of ASCII. -/
def Literal.exact? (n : Literal) : Option ℚ :=
  if n.whole.all isAsciiDigit && n.fraction.all isAsciiDigit then
    some ((if n.negative then -1 else 1) * Decimal.ofDigits (n.whole ++ n.fraction) / 10 ^ n.fraction.length)
  else none

/-- The numbers of an answer, in order and not rounded. -/
def exactNumbers (answer : List Char) : List ℚ := (Literal.scan answer).filterMap Literal.exact?

/-- The rectangle in an answer, not rounded but to whole pixels. -/
def Rect.exactOfAnswer? (answer : String) (canvas : Size ℚ) : Option (Rect ℚ) :=
  Rect.ofNumbers? (exactNumbers answer.toList) canvas

/-- On one axis, whole pixels in place of the part of a length between two shares of it. -/
structure FloorsShares (low high length start extent : ℚ) : Prop where
  whole_start : ∃ n : ℤ, start = n
  whole_extent : ∃ n : ℤ, extent = n
  start_nonneg : 0 ≤ start
  extent_nonneg : 0 ≤ extent
  stays : start + extent ≤ length
  start_le : start ≤ low * length
  lt_start_succ : low * length < start + 1
  extent_le : extent ≤ (high - low) * length
  lt_extent_succ : (high - low) * length < extent + 1

variable {low high length : ℚ}

/-- Rounding down start and extent of a part leaves whole pixels of the length. -/
theorem floorsShares (least : 0 ≤ low) (ordered : low ≤ high) (most : high ≤ 1) (size : 0 ≤ length) :
    FloorsShares low high length ⌊low * length⌋ ⌊(high - low) * length⌋ := by
  have start := Int.floor_le (low * length)
  have extent := Int.floor_le ((high - low) * length)
  constructor
  case whole_start => exact ⟨_, rfl⟩
  case whole_extent => exact ⟨_, rfl⟩
  case start_nonneg =>
    apply Int.cast_nonneg
    apply Int.floor_nonneg.2
    exact mul_nonneg least size
  case extent_nonneg =>
    apply Int.cast_nonneg
    apply Int.floor_nonneg.2
    exact mul_nonneg (sub_nonneg.2 ordered) size
  case stays =>
    calc (⌊low * length⌋ + ⌊(high - low) * length⌋ : ℚ)
      _ ≤ low * length + (high - low) * length := add_le_add start extent
      _ = high * length := by ring
      _ ≤ length := mul_le_of_le_one_left size most
  case start_le => exact start
  case lt_start_succ => exact Int.lt_floor_add_one _
  case extent_le => exact extent
  case lt_extent_succ => exact Int.lt_floor_add_one _

/-- Without rounding a rectangle of shares is on the canvas, and less than a pixel off on each side. -/
theorem Rect.exactOfAnswer?_floors {answer : String} {canvas : Size ℚ} {left top right bottom : ℚ}
    (numbers : corners? (exactNumbers answer.toList) = some (left, top, right, bottom))
    (across : 0 ≤ left ∧ left ≤ right ∧ right ≤ 1) (down : 0 ≤ top ∧ top ≤ bottom ∧ bottom ≤ 1)
    (width : 0 ≤ canvas.width) (height : 0 ≤ canvas.height) :
    ∃ rect, Rect.exactOfAnswer? answer canvas = some rect ∧
      FloorsShares left right canvas.width rect.origin.x rect.size.width ∧
      FloorsShares top bottom canvas.height rect.origin.y rect.size.height := by
  refine ⟨Rect.ofShares left top right bottom canvas, ?_, ?_, ?_⟩
  · rw [exactOfAnswer?, ofNumbers?, numbers]
    rfl
  · exact floorsShares across.1 across.2.1 across.2.2 width
  · exact floorsShares down.1 down.2.1 down.2.2 height

end Exact

namespace Binary64

variable {low high length : Binary64} {n : Nat}

/-- On one axis, whole pixels within a length. -/
def Inside (start extent length : Binary64) : Prop :=
  ∃ i j n : Nat, start.Equals i ∧ extent.Equals j ∧ length.Equals n ∧ i + j ≤ n

/-- Start and extent of a part make less than a pixel too much when they are rounded, if there are few pixels. -/
theorem div_add_div_le {start stop : Nat} (ordered : start ≤ stop) (most : stop ≤ scale) (small : n < 2 ^ 52) :
    rounded (start * n) / scale + rounded (rounded (stop - start) * n) / scale ≤ n := by
  have pos := scale_pos
  have first := rounded_le (start * n)
  have second := rounded_le (rounded (stop - start) * n)
  have extent := Nat.mul_le_mul_right n (rounded_le (stop - start))
  have parts : (stop - start) * n + start * n = stop * n := by rw [← Nat.add_mul, Nat.sub_add_cancel ordered]
  have all : stop * n ≤ scale * n := Nat.mul_le_mul_right n most
  have few : n * scale ≤ (2 ^ 52 - 1) * scale := Nat.mul_le_mul_right scale (by omega)
  have down := Nat.div_mul_le_self (rounded (start * n)) scale
  have down' := Nat.div_mul_le_self (rounded (rounded (stop - start) * n)) scale
  by_contra more
  have beyond : (n + 1) * scale ≤
      (rounded (start * n) / scale + rounded (rounded (stop - start) * n) / scale) * scale :=
    Nat.mul_le_mul_right scale (Nat.lt_of_not_le more)
  rw [Nat.add_mul, Nat.add_mul, Nat.one_mul] at beyond
  rw [Nat.mul_assoc, Nat.mul_assoc] at extent
  rw [Nat.mul_comm scale n] at all
  omega

/-- A part of few pixels is far from infinity. -/
theorem mul_le_of_le {part : Nat} (le : part ≤ 2 * scale) (small : n < 2 ^ 52) :
    part * n < 2 ^ (53 + 1074) ∧ rounded (part * n) < 2 ^ 53 * scale := by
  have pos := scale_pos
  have product : part * n ≤ (2 ^ 53 - 2) * scale := by
    calc part * n
      _ ≤ 2 * scale * n := Nat.mul_le_mul_right n le
      _ = 2 * n * scale := Nat.mul_right_comm 2 scale n
      _ ≤ (2 ^ 53 - 2) * scale := Nat.mul_le_mul_right scale (by omega)
  constructor
  · exact Nat.lt_of_le_of_lt product (mul_scale_lt (by decide))
  · have error := rounded_le (part * n)
    omega

/-- Start and extent of a part of a length of whole pixels are within it, though they are rounded. -/
theorem inside_of_shares (least : zero.le low = true) (ordered : low.le high = true) (most : high.le (ofNat 1) = true)
    (whole : length.Equals n) (small : n < 2 ^ 52) :
    Inside (low.mul length).floor ((high.sub low).mul length).floor length := by
  have pos := scale_pos
  have one : (ofNat 1).Equals 1 := equals_ofNat (by decide)
  have above := order_of_le least
  have between := order_of_le ordered
  have below := order_of_le most
  have lower : low.HasUnits low.units := by
    apply hasUnits_of_nonneg (isFinite_of_order isFinite_zero one.1 above (le_trans between below))
    exact order_le_iff.1 above
  have upper : high.HasUnits high.units := by
    apply hasUnits_of_nonneg (isFinite_of_order isFinite_zero one.1 (le_trans above between) below)
    exact order_le_iff.1 (le_trans above between)
  have le : low.units ≤ high.units := by
    have signed := order_le_iff.1 between
    rw [lower.2, upper.2] at signed
    exact_mod_cast signed
  have le_one : high.units ≤ scale := by
    have signed := order_le_iff.1 below
    rw [upper.2, one.2] at signed
    omega
  have extent_le : rounded (high.units - low.units) ≤ 2 * scale := by
    have error := rounded_le (high.units - low.units)
    omega
  have few : high.units < 2 ^ (1 + 1074) := by
    have units : 1 * scale < 2 ^ (1 + 1074) := mul_scale_lt (by decide)
    omega
  obtain ⟨start_lt, start_few⟩ := mul_le_of_le (by omega : low.units ≤ 2 * scale) small
  obtain ⟨extent_lt, extent_few⟩ := mul_le_of_le extent_le small
  have start := hasUnits_mul lower whole (by decide) start_lt
  have difference := hasUnits_sub upper lower le (by decide) few
  have extent := hasUnits_mul difference whole (by decide) extent_lt
  exact ⟨_, _, n, equals_floor start start_few, equals_floor extent extent_few, whole,
    div_add_div_le le le_one small⟩

end Binary64

/-- Both sides are whole pixels, fewer than `2 ^ 52`. -/
def Size.InPixels (size : Size Binary64) : Prop :=
  ∃ m n : Nat, size.width.Equals m ∧ size.height.Equals n ∧ m < 2 ^ 52 ∧ n < 2 ^ 52

/-- A rectangle of whole pixels is within a size. -/
structure Rect.Inside (rect : Rect Binary64) (size : Size Binary64) : Prop where
  across : Binary64.Inside rect.origin.x rect.size.width size.width
  down : Binary64.Inside rect.origin.y rect.size.height size.height

/-- A rectangle of shares is on a canvas in pixels, though numbers are rounded. -/
theorem Rect.ofAnswer?_inside {answer : String} {canvas : Size Binary64} {left top right bottom : Binary64}
    (numbers : corners? (answerNumbers answer.toList) = some (left, top, right, bottom))
    (across : Binary64.zero.le left = true ∧ left.le right = true ∧ right.le (.ofNat 1) = true)
    (down : Binary64.zero.le top = true ∧ top.le bottom = true ∧ bottom.le (.ofNat 1) = true)
    (pixels : canvas.InPixels) : ∃ rect, Rect.ofAnswer? answer canvas = some rect ∧ rect.Inside canvas := by
  obtain ⟨m, n, width, height, few, few'⟩ := pixels
  refine ⟨Rect.ofShares left top right bottom canvas, ?_, ?_, ?_⟩
  · rw [ofAnswer?, ofNumbers?, numbers]
    rfl
  · exact Binary64.inside_of_shares across.1 across.2.1 across.2.2 width few
  · exact Binary64.inside_of_shares down.1 down.2.1 down.2.2 height few'

end CanvasScript
