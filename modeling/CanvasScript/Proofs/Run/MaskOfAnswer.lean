import CanvasScript.Proofs.Run.AdaptSize
import CanvasScript.Proofs.Run.Zoom
import CanvasScript.Proofs.View.Shares

/-!
# Masks of answers

A mask for what a model answers has the size of the canvas for which the answer is read
(`Stage.masked_of_maskOfQuery`), so the rectangle that is filled is within the mask
(`Stage.maskAsk_inside`).
-/

namespace CanvasScript.Stage

variable {setting : Setting} {spot : Spot} {entry : Entry} {model query : String} {mask : MaskHandle} {s t : Stage}

/-- The calls that fill a rectangle of a mask, if there is one. -/
def fills (mask : MaskHandle) (rect? : Option (Rect Binary64)) : List Call :=
  rect?.toList.map fun rect => .fillMaskRectangle mask.id rect (Binary64.ofNat 1)

theorem calls_masked : (s.masked entry model query).host.calls.toList =
    s.host.calls.toList ++
      (.answer model (rectangleQuestion query) :: .createMask s.host.canvas .zero s.nextMask ::
        fills s.nextMask (Rect.ofAnswer? s.host.answerText s.host.canvas)) := by
  unfold masked
  cases Rect.ofAnswer? s.host.answerText s.host.canvas with
  | some rect => simp [withMask, logged, fills, nextMask]
  | none => simp [withMask, logged, noted, fills, nextMask]

/-- **Rectangles of answers.** Without rounding, a rectangle of shares of a canvas is read from an answer as whole
pixels on that canvas. A mask for an answer has the size of the canvas for which the rectangle is read that is
filled; and on a canvas in pixels this is on the mask also as numbers are rounded. -/
theorem maskAsk_inside (setting : Setting) (spot : Spot) (query : String) :
    (∀ (answer : String) (canvas : Size ℚ) (left top right bottom : ℚ),
      corners? (exactNumbers answer.toList) = some (left, top, right, bottom) →
      0 ≤ left ∧ left ≤ right ∧ right ≤ 1 → 0 ≤ top ∧ top ≤ bottom ∧ bottom ≤ 1 →
      0 ≤ canvas.width → 0 ≤ canvas.height →
      ∃ rect, Rect.exactOfAnswer? answer canvas = some rect ∧
        FloorsShares left right canvas.width rect.origin.x rect.size.width ∧
        FloorsShares top bottom canvas.height rect.origin.y rect.size.height) ∧
    ∀ s t, (perform setting spot (.maskAsk query)).run s = (.ok (), t) →
      ∃ mask, t.mask = some mask ∧
        t.host.calls.toList = s.host.calls.toList ++
          (.answer setting.settings.askModel (rectangleQuestion query) :: .createMask s.host.canvas .zero mask ::
            fills mask (Rect.ofAnswer? s.host.answerText s.host.canvas)) ∧
        ∀ left top right bottom,
          corners? (answerNumbers s.host.answerText.toList) = some (left, top, right, bottom) →
          Binary64.zero.le left = true ∧ left.le right = true ∧ right.le (.ofNat 1) = true →
          Binary64.zero.le top = true ∧ top.le bottom = true ∧ bottom.le (.ofNat 1) = true →
          s.host.canvas.InPixels →
          ∃ rect, Rect.ofAnswer? s.host.answerText s.host.canvas = some rect ∧ rect.Inside s.host.canvas := by
  constructor
  · intro answer canvas left top right bottom numbers across down width height
    exact Rect.exactOfAnswer?_floors numbers across down width height
  · intro s t done
    obtain ⟨mask, u, asked, set⟩ := Attempt.run_bind_eq_ok_iff.1 done
    obtain ⟨rfl, rfl⟩ := masked_of_maskOfQuery asked
    cases set
    refine ⟨s.nextMask, rfl, calls_masked, ?_⟩
    intro left top right bottom numbers across down pixels
    exact Rect.ofAnswer?_inside numbers across down pixels

/-- The stage of a new host that answers with a rectangle at the bottom, behind a measure of confidence. -/
def askedStage : Stage :=
  { freshStage with host := { freshStage.host with answerText := "0.9: 0.25, 0.5, 0.75, 1" } }

theorem maskAsk_inside_bottom :
    (∃ rect : Rect ℚ, Rect.exactOfAnswer? "0.9: 0.25, 0.5, 0.75, 1" { width := 1023, height := 300.5 } = some rect ∧
      rect = Rect.of 255 150 511 150 ∧
      FloorsShares 0.25 0.75 1023 rect.origin.x rect.size.width ∧
      FloorsShares 0.5 1 300.5 rect.origin.y rect.size.height) ∧
    ∃ t mask rect, (perform plainSetting ⟨0, none⟩ (.maskAsk "the floor")).run askedStage = (.ok (), t) ∧
      t.host.calls.toList = [.answer plainSetting.settings.askModel (rectangleQuestion "the floor"),
        .createMask askedStage.host.canvas .zero mask, .fillMaskRectangle mask.id rect (.ofNat 1)] ∧
      rect.Inside askedStage.host.canvas := by
  have exact : corners? (exactNumbers "0.9: 0.25, 0.5, 0.75, 1".toList) = some (0.25, 0.5, 0.75, 1) := by
    decide +kernel
  have rounded : corners? (answerNumbers askedStage.host.answerText.toList) =
      some (Scalar.decimal 25 2, Scalar.decimal 5 1, Scalar.decimal 75 2, .ofNat 1) := by decide +kernel
  have done : (perform plainSetting ⟨0, none⟩ (.maskAsk "the floor")).run askedStage = _ :=
    Attempt.run_eq_of_isOk (by decide +kernel)
  have size : askedStage.host.canvas = { width := .ofNat 1024, height := .ofNat 1024 } := by decide +kernel
  have pixels : askedStage.host.canvas.InPixels := by
    have whole : (Binary64.ofNat 1024).Equals (1024 : Nat) := Binary64.equals_ofNat (by decide)
    rw [size]
    exact ⟨1024, 1024, whole, whole, by decide, by decide⟩
  obtain ⟨floors, runs⟩ := maskAsk_inside plainSetting ⟨0, none⟩ "the floor"
  constructor
  · obtain ⟨rect, read, across, down⟩ := floors _ { width := 1023, height := 300.5 } _ _ _ _ exact (by decide +kernel)
      (by decide +kernel) (by decide +kernel) (by decide +kernel)
    have same : Rect.exactOfAnswer? "0.9: 0.25, 0.5, 0.75, 1" { width := 1023, height := 300.5 } =
        some (Rect.of 255 150 511 150) := by decide +kernel
    obtain rfl := Option.some.inj (read.symm.trans same)
    exact ⟨_, read, rfl, across, down⟩
  · obtain ⟨mask, -, log, inside⟩ := runs _ _ done
    obtain ⟨rect, read, inside⟩ := inside _ _ _ _ rounded (by decide +kernel) (by decide +kernel) pixels
    rw [read] at log
    exact ⟨_, mask, rect, done, log, inside⟩

end CanvasScript.Stage
