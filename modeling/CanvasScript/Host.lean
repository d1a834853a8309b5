import CanvasScript.Attempt
import CanvasScript.Disk
import CanvasScript.FilePath
import CanvasScript.Host.Call
import CanvasScript.Listing

/-!
# Hosts

A host holds the canvas that a run works on. This one draws nothing: it records
every call, answers from what it was set up with, and can be made to fail one
operation every time. Operations that hand out an image or a mask number it; the
makers of masks take a number even when they fail.
-/

namespace CanvasScript

open Json (Value)

/-- Why an operation of a host failed. -/
inductive HostError where
  | operation (name message : String)
  | directory (message : String)
  deriving DecidableEq

def HostError.message : HostError → String
  | operation name message => s!"Backend operation {name} failed: {message}"
  | directory message => s!"Directory not readable: {message}"

/-- A host: what it answers with, what it was asked to do, and how many images and
masks it has handed out. -/
structure Host where
  configuration : Configuration
  negativePrompt : String
  canvas : Size Binary64
  zoom : Binary64
  /-- The bounds of what is on the canvas, the whole canvas if not given. -/
  bounds : Option (Rect Binary64)
  /-- The faces on the canvas, or why they cannot be found. -/
  faces : Except String (List (Rect Binary64))
  answerText : String
  /-- The directory that paths start from. -/
  pictures : String
  /-- The names of the files in directories that are listed beforehand. -/
  listings : List (String × List String)
  /-- The disk with the directories that are not listed beforehand. -/
  disk : Disk
  downloaded : List String
  /-- The operation that fails. -/
  failing : Option String
  calls : Array Call
  handedOut : Nat

/-- An operation of a host. -/
abbrev HostAction := Attempt Host HostError

namespace Host

/-- A host with a square canvas and nothing on it. -/
def ofPictures (pictures : String) : Host :=
  let side := Binary64.ofNat 1024
  let configuration := Configuration.empty.setSize { width := side, height := side }
  { configuration
    negativePrompt := ""
    canvas := configuration.size
    zoom := Binary64.ofNat 1
    bounds := none
    faces := .ok []
    answerText := ""
    pictures
    listings := []
    disk := .empty
    downloaded := []
    failing := none
    calls := #[]
    handedOut := 0 }

/-- The host with another configuration and a canvas of its size. -/
def withConfiguration (h : Host) (configuration : Configuration) : Host :=
  { h with configuration, canvas := configuration.size }

/-- The host with the files of a directory listed beforehand. -/
def withListing (h : Host) (directory : String) (names : List String) : Host :=
  { h with listings := (FilePath.trimSlashes directory, names) :: h.listings }

/-- The requests that were rendered, in order. -/
def renders (h : Host) : List RenderRequest :=
  h.calls.toList.filterMap fun
    | .render request => some request
    | _ => none

/-- What is said of an operation that was made to fail. -/
def injected (operation : String) : HostError := .operation operation "injected failure"

/-- Fails if the operation is the one that fails. -/
def guard (operation : String) : HostAction Unit := fun h =>
  if h.failing = some operation then (.error (injected operation), h) else (.ok (), h)

/-- Records a call unless its operation fails. -/
def record (call : Call) : HostAction Unit := do
  guard call.name
  .modify fun h => { h with calls := h.calls.push call }

/-- Something that a host tells without a record, unless the operation fails. -/
def query (operation : String) (f : Host → α) : HostAction α := do
  guard operation
  .gets f

/-- The number of the next image or mask. -/
def takeNumber : HostAction Nat :=
  .ofState fun h => (h.handedOut + 1, { h with handedOut := h.handedOut + 1 })

/-- Where the image with a number is. -/
def srcOf (what : String) (number : Nat) : String := s!"dryrun://{what}/{number}"

def maskOf (number : Nat) : MaskHandle := { id := s!"mask-{number}", src := srcOf "mask" number }

/-- A new mask, recorded by the call that makes it. -/
def newMask (call : MaskHandle → Call) : HostAction MaskHandle := do
  let mask := maskOf (← takeNumber)
  record (call mask)
  return mask

/-- A new image, recorded by the call that makes it; nothing is numbered when that fails. -/
def newSrc (what : String) (call : String → Call) : HostAction String := do
  guard (call "").name
  let src := srcOf what (← takeNumber)
  record (call src)
  return src

/-- The configuration that a run starts with. -/
def getConfiguration : HostAction Configuration := query "configuration" Host.configuration

def getNegativePrompt : HostAction String := query "negative_prompt" Host.negativePrompt

def getCanvasSize : HostAction (Size Binary64) := query "canvas_size" Host.canvas

def getCanvasZoom : HostAction Binary64 := query "canvas_zoom" Host.zoom

/-- The bounds of what is on the canvas. -/
def getBounds : HostAction (Rect Binary64) :=
  query "bounding_box" fun h => h.bounds.getD (Rect.of .zero .zero h.canvas.width h.canvas.height)

/-- Which of the models are there. -/
def modelsDownloaded (models : List String) : HostAction (List Bool) :=
  query "models_downloaded" fun h => models.map h.downloaded.contains

def render (request : RenderRequest) : HostAction Unit := record (.render request)

/-- Gives the canvas the size of a configuration, unless that is empty. -/
def updateCanvasSize (configuration : Configuration) : HostAction Unit := do
  let size := configuration.size
  record (.updateCanvasSize size)
  .modify fun h => if size.isEmpty then h else { h with canvas := size }

def clearCanvas : HostAction Unit := record .clearCanvas

def saveImage (path : String) (visibleOnly : Bool) : HostAction Unit := record (.saveImage path visibleOnly)

def loadImage (path : String) : HostAction Unit := record (.loadImage path)

/-- The image on the canvas. -/
def saveImageSrc : HostAction String := newSrc "canvas" .saveImageSrc

def loadImageSrc (src : String) : HostAction Unit := record (.loadImageSrc src)

def setCanvasZoom (zoom : Binary64) : HostAction Unit := do
  record (.setCanvasZoom zoom)
  .modify fun h => { h with zoom }

def moveCanvas (pan : Point Binary64) : HostAction Unit := record (.moveCanvas pan)

/-- The faces on the canvas; looking for them is recorded even if it fails for want of an answer. -/
def detectFaces : HostAction (List (Rect Binary64)) := do
  record .detectFaces
  match ← .gets Host.faces with
  | .ok faces => return faces
  | .error message => .fail (.operation "detect_faces" message)

/-- The answer of a model to a question about the canvas. -/
def answer (model question : String) : HostAction String := do
  record (.answer model question)
  .gets Host.answerText

def backgroundMask : HostAction MaskHandle := newMask .backgroundMask

def foregroundMask : HostAction MaskHandle := newMask .foregroundMask

def bodyMask (parts : List BodyPart) (extra : Option Binary64) : HostAction MaskHandle :=
  newMask (.bodyMask parts extra)

def createMask (size : Size Binary64) (value : Binary64) : HostAction MaskHandle :=
  newMask (.createMask size value)

def fillMaskRectangle (mask : MaskHandle) (rect : Rect Binary64) (value : Binary64) : HostAction Unit :=
  record (.fillMaskRectangle mask.id rect value)

def loadMaskFromSrc (src : String) : HostAction Unit := record (.loadMaskFromSrc src)

def clearMoodboard : HostAction Unit := record .clearMoodboard

def addToMoodboard (sources : List String) : HostAction Unit := record (.addToMoodboard sources)

def removeFromMoodboard (slot : Nat) : HostAction Unit := record (.removeFromMoodboard slot)

def setMoodboardWeight (slot : Nat) (weight : Binary64) : HostAction Unit :=
  record (.setMoodboardWeight slot weight)

def extractDepthMap (src : String) : HostAction Unit := record (.extractDepthMap src)

def loadDepthMap (src : String) : HostAction Unit := record (.loadDepthMap src)

/-- The depth map of the canvas. -/
def saveDepthMapSrc : HostAction String := newSrc "depth" .saveDepthMapSrc

def loadPoseFromSrc (src : String) : HostAction Unit := record (.loadPoseFromSrc src)

def loadPoseJson (pose : Value) : HostAction Unit := record (.loadPoseJson pose)

def clearPose : HostAction Unit := record .clearPose

/-- Waits for a number of milliseconds; this cannot fail. -/
def settle (millis : Nat) : HostAction Unit :=
  .modify fun h => { h with calls := h.calls.push (.settle millis) }

/-- The files of a directory: those listed beforehand, or else those on disk. -/
def filesOf (h : Host) (directory : String) : Except HostError (List DirEntry) :=
  let root := FilePath.join h.pictures directory
  let entries (names : List String) : List DirEntry :=
    names.map fun name => { name, path := FilePath.join root name }
  match h.listings.find? fun listing => listing.1 == FilePath.trimSlashes directory with
  | some (_, names) => .ok (entries names)
  | none =>
    match h.disk.list root with
    | .ok names => .ok (entries names)
    | .error reason => .error (.directory s!"{root}: {reason}")

/-- The files of a directory under the pictures. -/
def readEntries (directory : String) : HostAction (List DirEntry) := do
  guard "read_entries"
  .ofExcept (← .gets fun h => h.filesOf directory)

end Host

end CanvasScript
