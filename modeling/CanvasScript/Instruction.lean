import CanvasScript.Kind
import CanvasScript.Json.Value

/-!
# Instructions

What the entries of a script tell a run to do. There is one constructor for each
kind (`Instruction.kind`).
-/

namespace CanvasScript

/-- Where the canvas is moved to and how far it is zoomed. -/
structure MoveScale where
  x : Binary64
  y : Binary64
  scale : Binary64
  deriving DecidableEq

/-- The greatest size the canvas is adapted to. -/
structure SizeLimits where
  width : Binary64
  height : Binary64
  deriving DecidableEq

/-- Numbers of the latent sizes of the source, the target and the negative image. -/
structure LatentTiers where
  source : Binary64
  target : Binary64
  negative : Binary64
  deriving DecidableEq

/-- Parts of a body that a mask can cover. -/
inductive BodyPart where
  | upperBody
  | lowerBody
  | clothing
  | neck
  deriving DecidableEq

def BodyPart.name : BodyPart → String
  | upperBody => "UPPER_BODY"
  | lowerBody => "LOWER_BODY"
  | clothing => "CLOTHING"
  | neck => "NECK"

/-- What a body mask covers and how far it reaches beyond that. -/
structure BodyMask where
  upper : Bool
  lower : Bool
  clothes : Bool
  neck : Bool
  extra : Option Binary64
  deriving DecidableEq

namespace BodyMask

def none : BodyMask :=
  { upper := false, lower := false, clothes := false, neck := false, extra := Option.none }

/-- The parts that are covered. -/
def parts (mask : BodyMask) : List BodyPart :=
  (if mask.upper then [.upperBody] else []) ++ (if mask.lower then [.lowerBody] else []) ++
    (if mask.clothes then [.clothing] else []) ++ (if mask.neck then [.neck] else [])

end BodyMask

/-- How often a loop runs and where its numbering starts. -/
structure LoopSpec where
  count : Option Binary64
  start : Option Binary64
  deriving DecidableEq

namespace LoopSpec

/-- The counter at which the loop ends: a positive count rounded up, a negative one
cut off, and one pass for a count that is missing, zero or not finite. -/
def passes (spec : LoopSpec) : Int :=
  match spec.count with
  | some n =>
    if n.isFinite && Binary64.zero.lt n then Binary64.clamp64 n.ceiling
    else if n.isFinite && !n.isZero then n.toInt64
    else 1
  | none => 1

/-- The number of the first pass. -/
def offset (spec : LoopSpec) : Int :=
  match spec.start with
  | some n => if n.isFinite then n.toInt64 else 0
  | none => 0

end LoopSpec

/-- What an entry of a script tells a run to do. -/
inductive Instruction where
  | note
  | prompt (text : String)
  | negativePrompt (text : String)
  | config (patch : Json.Fields)
  | frames (count : Json.Value)
  | faceZoom
  | askZoom (query : String)
  | removeBackground
  | canvasClear
  | canvasSave (path : String)
  | canvasLoad (path : String)
  | moveScale (target : MoveScale)
  | adaptSize (limits : SizeLimits)
  | crop
  | moodboardClear
  | moodboardCanvas
  | moodboardLoad
  | moodboardAdd (path : String)
  | loopAddMoodboard (directory : String)
  | moodboardRemove (slot : Nat)
  | moodboardWeights (weights : List (Nat × Binary64))
  | maskClear
  | maskLoad (path : String)
  | maskGet
  | maskBackground
  | maskForeground
  | maskBody (mask : BodyMask)
  | maskAsk (query : String)
  | depthExtract
  | depthCanvas
  | depthToCanvas
  | inpaintTools (patch : Json.Fields)
  | latentSizes (tiers : LatentTiers)
  | poseExtract
  | poseJson (pose : Json.Fields)
  | poseClear
  | loop (spec : LoopSpec)
  | loopLoad (directory : String)
  | loopSave (path : String)
  | loopEnd
  | finish
  deriving Inhabited

/-- The kind of an instruction. -/
def Instruction.kind : Instruction → Kind
  | note => .note
  | prompt _ => .prompt
  | negativePrompt _ => .negativePrompt
  | config _ => .config
  | frames _ => .frames
  | faceZoom => .faceZoom
  | askZoom _ => .askZoom
  | removeBackground => .removeBackground
  | canvasClear => .canvasClear
  | canvasSave _ => .canvasSave
  | canvasLoad _ => .canvasLoad
  | moveScale _ => .moveScale
  | adaptSize _ => .adaptSize
  | crop => .crop
  | moodboardClear => .moodboardClear
  | moodboardCanvas => .moodboardCanvas
  | moodboardLoad => .moodboardLoad
  | moodboardAdd _ => .moodboardAdd
  | loopAddMoodboard _ => .loopAddMoodboard
  | moodboardRemove _ => .moodboardRemove
  | moodboardWeights _ => .moodboardWeights
  | maskClear => .maskClear
  | maskLoad _ => .maskLoad
  | maskGet => .maskGet
  | maskBackground => .maskBackground
  | maskForeground => .maskForeground
  | maskBody _ => .maskBody
  | maskAsk _ => .maskAsk
  | depthExtract => .depthExtract
  | depthCanvas => .depthCanvas
  | depthToCanvas => .depthToCanvas
  | inpaintTools _ => .inpaintTools
  | latentSizes _ => .latentSizes
  | poseExtract => .poseExtract
  | poseJson _ => .poseJson
  | poseClear => .poseClear
  | loop _ => .loop
  | loopLoad _ => .loopLoad
  | loopSave _ => .loopSave
  | loopEnd => .loopEnd
  | finish => .finish

end CanvasScript
