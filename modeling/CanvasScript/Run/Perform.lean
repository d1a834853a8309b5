import CanvasScript.Run.Zoom

/-!
# Carrying out instructions

What each instruction does to the stage. Loops and the end of a run are not done
here: they only move the position (`Position.after?`).
-/

namespace CanvasScript

/-- What is the same for every instruction of a run. -/
structure Setting where
  resolver : Shortcut.Resolver
  settings : Settings

/-- Where an instruction stands: its step and the active loop. -/
structure Spot where
  index : Nat
  frame : Option LoopFrame

namespace Spot

/-- The passes done in the active loop. -/
def counter (spot : Spot) : Int := (spot.frame.map LoopFrame.counter).getD 0

/-- The number of the pass, which is counted in 64 bits. -/
def number (spot : Spot) : Int := (spot.counter + (spot.frame.map LoopFrame.offset).getD 0).bmod UInt64.size

end Spot

namespace Stage

variable (setting : Setting)

/-- Waits after a change. -/
def settle : StageAction Unit := onHost (Host.settle setting.settings.settleDelay)

/-- Waits after a change of the moodboard. -/
def settleMoodboard : StageAction Unit := onHost (Host.settle setting.settings.moodboardSettleDelay)

/-- A prompt without triggers and wildcards. -/
def resolvePrompt (text : String) : StageAction String :=
  onDraws (Shortcut.onString setting.resolver.prompt text)

/-- Gives the canvas the size of the configuration. -/
def updateCanvasSize : StageAction Unit := do
  let configuration ← .gets Stage.configuration
  onHost (Host.updateCanvasSize configuration)

def render (text : String) : StageAction Unit := do
  let prompt ← resolvePrompt setting text
  updateCanvasSize
  let request ← .gets fun s =>
    { configuration := s.configuration, prompt, negativePrompt := s.negativePrompt, mask := s.mask }
  onHost (Host.render request)
  .modify fun s => { s with renders := s.renders + 1 }

/-- Puts the fields of a payload into the configuration once all are resolved. -/
def configure (patch : Json.Fields) : StageAction Unit := do
  let resolved ← onDraws (setting.resolver.configFields patch)
  setConfiguration fun c => c.merge resolved

/-- Keeps of the canvas what is visible. -/
def crop : StageAction Unit := do
  updateCanvasSize
  let visible ← onHost Host.saveImageSrc
  onHost Host.clearCanvas
  onHost (Host.loadImageSrc visible)

/-- Makes the configuration as large as what is on the canvas, within limits. -/
def adaptSize (limits : SizeLimits) : StageAction Unit := do
  onHost (Host.settle setting.settings.boundsSettleDelay)
  let bounds ← onHost Host.getBounds
  if bounds.size.isEmpty then .fail .emptyBounds
  else
    setConfiguration fun c => c.setSize
      { width := bounds.size.width.min limits.width, height := bounds.size.height.min limits.height }
    updateCanvasSize
    onHost (Host.setCanvasZoom (Binary64.ofNat 1))
    onHost (Host.moveCanvas { x := .zero, y := .zero })

/-- A path under the pictures. -/
def pathOf (path : String) : StageAction String := .gets fun s => FilePath.join s.host.pictures path

/-- The file of a directory whose turn it is. -/
def fileInTurn (counter : Int) (directory : String) : StageAction DirEntry := do
  let entries ← onHost (Host.readEntries directory)
  match entryInTurn? entries counter with
  | some entry => return entry
  | none => .fail (.emptyDirectory directory)

/-- Adds files to the moodboard by their address. -/
def addFile (path : String) : StageAction Unit := do
  onHost (Host.addToMoodboard [FilePath.url path])
  settleMoodboard setting

def perform (spot : Spot) : Instruction → StageAction Unit
  | .note => pure ()
  | .prompt text => render setting text
  | .negativePrompt text => do setNegativePrompt (← resolvePrompt setting text)
  | .config patch | .inpaintTools patch => configure setting patch
  | .frames count => setConfiguration fun c => c.setFrames count
  | .faceZoom => faceZoom { index := spot.index, kind := .faceZoom }
  | .askZoom query => askZoom { index := spot.index, kind := .askZoom } setting.settings.askModel query
  | .moveScale target => do
    onHost (Host.moveCanvas { x := target.x, y := target.y })
    onHost (Host.setCanvasZoom target.scale)
  | .adaptSize limits => do
    adaptSize setting limits
    settle setting
  | .crop => crop
  | .removeBackground => do
    let background ← onHost Host.backgroundMask
    onHost (Host.loadMaskFromSrc background.src)
    settle setting
  | .canvasClear => do
    onHost Host.clearCanvas
    settle setting
  | .canvasSave path => do
    onHost (Host.saveImage (← pathOf path) false)
    settle setting
  | .canvasLoad path => do
    updateCanvasSize
    onHost (Host.loadImage (← pathOf path))
    settle setting
  | .moodboardClear => do
    onHost Host.clearMoodboard
    settle setting
  | .moodboardCanvas => do
    onHost (Host.addToMoodboard [← onHost Host.saveImageSrc])
    settle setting
  | .moodboardLoad => do
    onHost (Host.addToMoodboard [← onHost Host.saveImageSrc])
    onHost Host.clearCanvas
  | .moodboardAdd path => do addFile setting (← pathOf path)
  | .loopAddMoodboard directory => do addFile setting (← fileInTurn spot.counter directory).path
  | .moodboardRemove slot => do
    onHost (Host.removeFromMoodboard slot)
    settle setting
  | .moodboardWeights weights => weights.forM fun (slot, weight) => onHost (Host.setMoodboardWeight slot weight)
  | .maskClear => setMask none
  | .maskLoad path => do
    onHost (Host.loadMaskFromSrc (FilePath.url (← pathOf path)))
    settleMoodboard setting
    setMask none
  | .maskGet => do
    match ← .gets Stage.mask with
    | some mask => onHost (Host.loadImageSrc mask.src)
    | none => pure ()
  | .maskBackground => do setMask (some (← onHost Host.backgroundMask))
  | .maskForeground => do setMask (some (← onHost Host.foregroundMask))
  | .maskBody mask => do setMask (some (← onHost (Host.bodyMask mask.parts mask.extra)))
  | .maskAsk query => do
    let entry : Entry := { index := spot.index, kind := .maskAsk }
    setMask (some (← maskOfQuery entry setting.settings.askModel query))
  | .depthExtract => do
    onHost (Host.extractDepthMap (← onHost Host.saveImageSrc))
    settle setting
  | .depthCanvas => do onHost (Host.loadDepthMap (← onHost Host.saveImageSrc))
  | .depthToCanvas => do onHost (Host.loadImageSrc (← onHost Host.saveDepthMapSrc))
  | .latentSizes tiers => setConfiguration fun c => c.setLatentSizes tiers
  | .poseExtract => do
    onHost (Host.loadPoseFromSrc (← onHost Host.saveImageSrc))
    settle setting
  | .poseJson pose => do
    onHost (Host.loadPoseJson (← onDraws (setting.resolver.pose (.object pose))))
  | .poseClear => onHost Host.clearPose
  | .loopLoad directory => do
    onHost (Host.loadImage (← fileInTurn spot.counter directory).path)
    settle setting
  | .loopSave path => do
    onHost (Host.saveImage (← pathOf (FilePath.numbered path spot.number)) false)
    settle setting
  | .loop _ | .loopEnd | .finish => pure ()

end Stage

end CanvasScript
