import CanvasScript.Scalar.Rational
import CanvasScript.View
import Mathlib.Tactic.Linarith
import Mathlib.Tactic.NormNum
import Mathlib.Tactic.Positivity

/-!
# Centring a view without rounding

Over the rationals a placement can be told exactly. On each axis the view starts where its middle
comes as near to the middle of the region as the canvas lets it (`Placement.centersOn_panTo`):
clamping a place between two bounds gives the nearest place between them (`abs_clamp_sub_lt`). So a
view that fits the canvas stays on it and shows the middle of a region whose middle is on the canvas
(`Placement.around_clamped`).
-/

namespace CanvasScript

/-- The place between two bounds that is nearest to a given one is that place moved between them. -/
theorem abs_clamp_sub_lt {x y low high : ℚ} (bounds : low ≤ high) (least : low ≤ y) (most : y ≤ high)
    (other : y ≠ min (max x low) high) : |min (max x low) high - x| < |y - x| := by
  rcases le_total x low with below | above
  · rw [max_eq_right below, min_eq_left bounds] at other ⊢
    have less : low < y := lt_of_le_of_ne least other.symm
    rw [abs_of_nonneg (by linarith), abs_of_nonneg (by linarith)]
    linarith
  · rw [max_eq_left above] at other ⊢
    rcases le_total x high with inside | beyond
    · rw [min_eq_left inside] at other ⊢
      rw [sub_self, abs_zero]
      exact abs_pos.2 (sub_ne_zero.2 other)
    · rw [min_eq_right beyond] at other ⊢
      have less : y < high := lt_of_le_of_ne most other
      rw [abs_of_nonpos (by linarith), abs_of_nonpos (by linarith)]
      linarith

namespace Placement

section Constants

theorem zero_rat : (Scalar.zero : ℚ) = 0 := by norm_num [Scalar.zero, Scalar.decimal]

theorem two_rat : (Scalar.two : ℚ) = 2 := by norm_num [Scalar.two, Scalar.decimal]

theorem leastZoom_rat : (leastZoom : ℚ) = 1.5 := by norm_num [leastZoom, Scalar.decimal]

theorem zoomDivisor_rat : (zoomDivisor : ℚ) = 1.8 := by norm_num [zoomDivisor, Scalar.decimal]

theorem heightShare_rat : (heightShare : ℚ) = 0.65 := by norm_num [heightShare, Scalar.decimal]

theorem zoomFrom_rat (current : ℚ) : zoomFrom current = max 1.5 (current / 1.8) := by
  rw [← leastZoom_rat, ← zoomDivisor_rat]
  rfl

/-- Zooming to a region makes things larger. -/
theorem zoomFrom_pos (current : ℚ) : 0 < zoomFrom current := by
  rw [zoomFrom_rat]
  apply lt_of_lt_of_le _ (le_max_left _ _)
  norm_num

theorem fits_iff {region : Rect ℚ} {viewport : Size ℚ} :
    fits region viewport = true ↔ region.size.height < 0.65 * viewport.height := by
  rw [← heightShare_rat, mul_comm]
  exact decide_eq_true_iff

end Constants

/-- On one axis, a start of a view that is as near to centring it as the canvas lets it. -/
structure CentersOn (center viewport canvas zoom start : ℚ) : Prop where
  nonneg : 0 ≤ start
  le_last : start ≤ max 0 (canvas - viewport / zoom)
  nearest : ∀ other, 0 ≤ other → other ≤ max 0 (canvas - viewport / zoom) → other ≠ start →
    |start - (center - viewport / (2 * zoom))| < |other - (center - viewport / (2 * zoom))|
  stays : viewport / zoom ≤ canvas → start + viewport / zoom ≤ canvas
  shows : viewport / zoom ≤ canvas → 0 ≤ center → center ≤ canvas →
    start ≤ center ∧ center ≤ start + viewport / zoom

theorem panTo_rat (center viewport canvas zoom : ℚ) :
    panTo center viewport canvas zoom =
      min (max (center - viewport / (2 * zoom)) 0) (max 0 (canvas - viewport / zoom)) := by
  rw [← div_div, max_comm 0 (canvas - viewport / zoom), ← two_rat, ← zero_rat]
  rfl

/-- A view of some length is moved to be centred on one axis. -/
theorem centersOn_panTo (center canvas : ℚ) {viewport zoom : ℚ} (length : 0 ≤ viewport) (zooms : 0 < zoom) :
    CentersOn center viewport canvas zoom (panTo center viewport canvas zoom) := by
  have half : viewport / (2 * zoom) = viewport / zoom / 2 := by rw [mul_comm, div_div]
  have visible : 0 ≤ viewport / zoom := by positivity
  rw [panTo_rat]
  constructor
  case nonneg => exact le_min (le_max_right _ _) (le_max_left _ _)
  case le_last => exact min_le_right _ _
  case nearest =>
    intro other least most differs
    exact abs_clamp_sub_lt (le_max_left _ _) least most differs
  case stays =>
    intro smaller
    have last : max 0 (canvas - viewport / zoom) = canvas - viewport / zoom := max_eq_right (by linarith)
    have most := min_le_right (max (center - viewport / (2 * zoom)) 0) (max 0 (canvas - viewport / zoom))
    linarith
  case shows =>
    intro smaller least most
    rw [max_eq_right (by linarith : 0 ≤ canvas - viewport / zoom), half]
    constructor
    · apply min_le_of_left_le
      apply max_le <;> linarith
    · rw [← sub_le_iff_le_add]
      apply le_min _ (by linarith)
      apply le_max_of_le_left
      linarith

/-- **Clamped centring.** Without rounding, a region lower than 65 parts in a hundred of the viewport is
zoomed to and the view centred on it as far as the canvas goes; else the view is reset. -/
theorem around_clamped (region? : Option (Rect ℚ)) {viewport : Size ℚ} (canvas : Size ℚ) (current : ℚ)
    (width : 0 ≤ viewport.width) (height : 0 ≤ viewport.height) :
    (∀ region, region? = some region → region.size.height < 0.65 * viewport.height →
      ∃ pan, around region? viewport canvas current =
          { zoom := max 1.5 (current / 1.8), pan, centered := true } ∧
        CentersOn region.center.x viewport.width canvas.width (max 1.5 (current / 1.8)) pan.x ∧
        CentersOn region.center.y viewport.height canvas.height (max 1.5 (current / 1.8)) pan.y) ∧
    ((∀ region, region? = some region → 0.65 * viewport.height ≤ region.size.height) →
      around region? viewport canvas current = reset viewport) := by
  constructor
  · rintro region rfl low
    have zooms := zoomFrom_pos current
    refine ⟨(centerOn region viewport canvas current).pan, ?_, ?_, ?_⟩
    · rw [around, if_pos (fits_iff.2 low), ← zoomFrom_rat]
      rfl
    · rw [← zoomFrom_rat]
      exact centersOn_panTo _ _ width zooms
    · rw [← zoomFrom_rat]
      exact centersOn_panTo _ _ height zooms
  · intro tall
    cases region? with
    | none => rfl
    | some region =>
      have low : fits region viewport ≠ true := by
        intro fits
        exact absurd (fits_iff.1 fits) (not_lt.2 (tall region rfl))
      exact if_neg low

/-- A viewport as large as the canvas. -/
def wholeCanvas : Size ℚ := { width := 1000, height := 800 }

/-- A region in the far corner of the canvas. -/
def farCorner : Rect ℚ := Rect.of 950 750 50 50

/-- What is in the far corner is shown at the end of the canvas. -/
theorem around_clamped_farCorner :
    0 ≤ wholeCanvas.width ∧ 0 ≤ wholeCanvas.height ∧ farCorner.size.height < 0.65 * wholeCanvas.height ∧
      ∃ pan, around (some farCorner) wholeCanvas wholeCanvas 1 = { zoom := max 1.5 (1 / 1.8), pan, centered := true } ∧
        pan = { x := 1000 / 3, y := 800 / 3 } ∧
        CentersOn farCorner.center.x wholeCanvas.width wholeCanvas.width (max 1.5 (1 / 1.8)) pan.x ∧
        CentersOn farCorner.center.y wholeCanvas.height wholeCanvas.height (max 1.5 (1 / 1.8)) pan.y := by
  have width : 0 ≤ wholeCanvas.width := by decide +kernel
  have height : 0 ≤ wholeCanvas.height := by decide +kernel
  have low : farCorner.size.height < 0.65 * wholeCanvas.height := by decide +kernel
  obtain ⟨pan, placed, wide, high⟩ := (around_clamped (some farCorner) wholeCanvas 1 width height).1 _ rfl low
  have start : (around (some farCorner) wholeCanvas wholeCanvas 1).pan = { x := 1000 / 3, y := 800 / 3 } := by
    decide +kernel
  rw [placed] at start
  exact ⟨width, height, low, pan, placed, start, wide, high⟩

end Placement

end CanvasScript
