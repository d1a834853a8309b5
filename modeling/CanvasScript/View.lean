import CanvasScript.Scalar

/-!
# The view of the canvas

Points, sizes and rectangles in pixels, and where the view is placed. A region is
centred when it is low enough for the viewport, and the view never leaves a canvas
that is at least as large; otherwise the view is reset.
-/

namespace CanvasScript

structure Point (α : Type) where
  x : α
  y : α
  deriving DecidableEq

structure Size (α : Type) where
  width : α
  height : α
  deriving DecidableEq

/-- A rectangle on the canvas. -/
structure Rect (α : Type) where
  origin : Point α
  size : Size α
  deriving DecidableEq

/-- How far the view is zoomed and where it is moved. -/
structure Placement (α : Type) where
  zoom : α
  pan : Point α
  /-- The view is centred on a region and not reset. -/
  centered : Bool
  deriving DecidableEq

variable {α : Type} [Scalar α]

/-- A size without an inside. -/
def Size.isEmpty (size : Size α) : Bool :=
  Scalar.le size.width Scalar.zero || Scalar.le size.height Scalar.zero

def Rect.center (rect : Rect α) : Point α where
  x := rect.origin.x + rect.size.width / Scalar.two
  y := rect.origin.y + rect.size.height / Scalar.two

/-- The rectangle from a corner and its two lengths. -/
def Rect.of (x y width height : α) : Rect α := { origin := { x, y }, size := { width, height } }

namespace Placement

/-- The share of the viewport's height below which a region is zoomed to. -/
def heightShare : α := Scalar.decimal 65 2

/-- The least zoom on a region. -/
def leastZoom : α := Scalar.decimal 15 1

/-- How much the zoom on a region is less than the zoom before. -/
def zoomDivisor : α := Scalar.decimal 18 1

def resetZoom : α := Scalar.decimal 12 1

/-- How much of the viewport the reset view is moved by. -/
def resetShare : α := Scalar.decimal 6 2

/-- The view zoomed a little and moved a little into the viewport. -/
def reset (viewport : Size α) : Placement α where
  zoom := resetZoom
  pan := { x := viewport.width * resetShare, y := viewport.height * resetShare }
  centered := false

/-- The zoom on a region. -/
def zoomFrom (current : α) : α := Scalar.max leastZoom (current / zoomDivisor)

/-- Where the view starts on one axis so that its middle is at `center`, moved into
the canvas. -/
def panTo (center viewport canvas zoom : α) : α :=
  let last := Scalar.max (canvas - viewport / zoom) Scalar.zero
  Scalar.min (Scalar.max (center - viewport / Scalar.two / zoom) Scalar.zero) last

/-- The view zoomed on a region. -/
def centerOn (region : Rect α) (viewport canvas : Size α) (current : α) : Placement α where
  zoom := zoomFrom current
  pan :=
    { x := panTo region.center.x viewport.width canvas.width (zoomFrom current)
      y := panTo region.center.y viewport.height canvas.height (zoomFrom current) }
  centered := true

/-- A region is low enough for the viewport to be zoomed to. -/
def fits (region : Rect α) (viewport : Size α) : Bool :=
  Scalar.lt region.size.height (viewport.height * heightShare)

/-- The view centred on a region that is given and fits, or reset. -/
def around (region? : Option (Rect α)) (viewport canvas : Size α) (current : α) : Placement α :=
  match region? with
  | some region => if fits region viewport then centerOn region viewport canvas current else reset viewport
  | none => reset viewport

end Placement

end CanvasScript
