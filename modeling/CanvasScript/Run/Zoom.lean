import CanvasScript.Run.Stage
import CanvasScript.View.Answer

/-!
# Zooming to a region

The view is centred on a face or on a rectangle that a model answers. Where there
is none, or it is too tall, the view is reset and that is noted. Looking for faces
never fails a run by itself: any failure on the way resets the view too.
-/

namespace CanvasScript.Stage

/-- Which entry an instruction stands in, and its kind. -/
structure Entry where
  index : Nat
  kind : Kind

/-- Places the view: on a region it is moved before it is zoomed, and reset the other
way round. -/
def applyPlacement (placement : Placement Binary64) : StageAction Unit :=
  if placement.centered then do
    onHost (Host.moveCanvas placement.pan)
    onHost (Host.setCanvasZoom placement.zoom)
  else do
    onHost (Host.setCanvasZoom placement.zoom)
    onHost (Host.moveCanvas placement.pan)

/-- Resets the view and notes why. -/
def resetZoom (entry : Entry) (reason : String) : StageAction Unit := do
  recover { index := entry.index, kind := entry.kind, recovery := .resetZoom, reason }
  let viewport ← .gets fun s => s.configuration.size
  applyPlacement (Placement.reset viewport)

/-- Zooms to a region, or resets the view when there is none or it is too tall. -/
def zoomTo (entry : Entry) (region? : Option (Rect Binary64)) (missing : String) : StageAction Unit := do
  let viewport ← .gets fun s => s.configuration.size
  let canvas ← onHost Host.getCanvasSize
  let current ← onHost Host.getCanvasZoom
  let placement := Placement.around region? viewport canvas current
  if placement.centered then applyPlacement placement
  else resetZoom entry (if region?.isNone then missing else "region too tall to zoom to")

/-- Zooms to the first face. -/
def faceZoom (entry : Entry) : StageAction Unit :=
  let attempt : StageAction Unit := do
    let faces ← onHost Host.detectFaces
    zoomTo entry faces.head? "no face detected"
  attempt.orElse fun e => resetZoom entry e.message

/-- The question for a rectangle. -/
def rectangleQuestion (query : String) : String := s!"get rectangle around {query}"

/-- The rectangle that a model answers, in pixels of the canvas. -/
def queryRect (model query : String) : StageAction (Option (Rect Binary64)) := do
  let answer ← onHost (Host.answer model (rectangleQuestion query))
  let canvas ← onHost Host.getCanvasSize
  return Rect.ofAnswer? answer canvas

/-- Zooms to the rectangle that a model answers. -/
def askZoom (entry : Entry) (model query : String) : StageAction Unit := do
  zoomTo entry (← queryRect model query) "no rectangle in answer"

/-- A mask of the canvas's size with the rectangle that a model answers, or with
nothing when there is none. -/
def maskOfQuery (entry : Entry) (model query : String) : StageAction MaskHandle := do
  let rect? ← queryRect model query
  let canvas ← onHost Host.getCanvasSize
  let mask ← onHost (Host.createMask canvas .zero)
  match rect? with
  | some rect => onHost (Host.fillMaskRectangle mask rect (Binary64.ofNat 1))
  | none =>
    recover
      { index := entry.index, kind := entry.kind, recovery := .emptyMask, reason := "no rectangle in answer" }
  return mask

end CanvasScript.Stage
