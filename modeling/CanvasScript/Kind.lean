/-!
# Kinds of instructions

Every entry of a script is named by the key of its kind, and every kind asks for
a value of one shape. Keys tell kinds apart (`Kind.ofKey?_key`).
-/

namespace CanvasScript

/-- The shape of the value that a kind asks for. -/
inductive Shape where
  /-- Any value. -/
  | flag
  | string
  | number
  | object
  /-- The path of an image, with one of the listed extensions. -/
  | path (extensions : List String)
  deriving DecidableEq

namespace Shape

/-- The name of the type of value that fits. -/
def typeName : Shape → String
  | flag => "flag"
  | string | path _ => "string"
  | number => "number"
  | object => "object"

/-- The extensions a path may have. -/
def extensions? : Shape → Option (List String)
  | path extensions => some extensions
  | _ => none

end Shape

/-- The kinds of instructions. -/
inductive Kind where
  | note
  | prompt
  | negativePrompt
  | config
  | frames
  | faceZoom
  | askZoom
  | removeBackground
  | canvasClear
  | canvasSave
  | canvasLoad
  | moveScale
  | adaptSize
  | crop
  | moodboardClear
  | moodboardCanvas
  | moodboardLoad
  | moodboardAdd
  | loopAddMoodboard
  | moodboardRemove
  | moodboardWeights
  | maskClear
  | maskLoad
  | maskGet
  | maskBackground
  | maskForeground
  | maskBody
  | maskAsk
  | depthExtract
  | depthCanvas
  | depthToCanvas
  | inpaintTools
  | latentSizes
  | poseExtract
  | poseJson
  | poseClear
  | loop
  | loopLoad
  | loopSave
  | loopEnd
  | finish
  deriving DecidableEq, Inhabited

namespace Kind

/-- Every kind, in the order in which kinds are listed. -/
def all : List Kind :=
  [note, prompt, negativePrompt, config, frames, faceZoom, askZoom, removeBackground, canvasClear,
    canvasSave, canvasLoad, moveScale, adaptSize, crop, moodboardClear, moodboardCanvas, moodboardLoad,
    moodboardAdd, loopAddMoodboard, moodboardRemove, moodboardWeights, maskClear, maskLoad, maskGet,
    maskBackground, maskForeground, maskBody, maskAsk, depthExtract, depthCanvas, depthToCanvas,
    inpaintTools, latentSizes, poseExtract, poseJson, poseClear, loop, loopLoad, loopSave, loopEnd, finish]

/-- The key that names a kind in a script. -/
def key : Kind → String
  | note => "note"
  | prompt => "prompt"
  | negativePrompt => "negPrompt"
  | config => "config"
  | frames => "frames"
  | faceZoom => "faceZoom"
  | askZoom => "askZoom"
  | removeBackground => "removeBkgd"
  | canvasClear => "canvasClear"
  | canvasSave => "canvasSave"
  | canvasLoad => "canvasLoad"
  | moveScale => "moveScale"
  | adaptSize => "adaptSize"
  | crop => "crop"
  | moodboardClear => "moodboardClear"
  | moodboardCanvas => "moodboardCanvas"
  | moodboardLoad => "moodboardLoad"
  | moodboardAdd => "moodboardAdd"
  | loopAddMoodboard => "loopAddMB"
  | moodboardRemove => "moodboardRemove"
  | moodboardWeights => "moodboardWeights"
  | maskClear => "maskClear"
  | maskLoad => "maskLoad"
  | maskGet => "maskGet"
  | maskBackground => "maskBkgd"
  | maskForeground => "maskFG"
  | maskBody => "maskBody"
  | maskAsk => "maskAsk"
  | depthExtract => "depthExtract"
  | depthCanvas => "depthCanvas"
  | depthToCanvas => "depthToCanvas"
  | inpaintTools => "inpaintTools"
  | latentSizes => "xlMagic"
  | poseExtract => "poseExtract"
  | poseJson => "poseJSON"
  | poseClear => "poseClear"
  | loop => "loop"
  | loopLoad => "loopLoad"
  | loopSave => "loopSave"
  | loopEnd => "loopEnd"
  | finish => "end"

/-- The kind named by a key. -/
def ofKey? (key : String) : Option Kind := all.find? fun kind => kind.key == key

/-- Extensions of images that can be loaded. -/
def imageExtensions : List String := ["png", "jpg", "webp"]

/-- The extension of images that are saved. -/
def savedExtensions : List String := ["png"]

/-- The shape of the value that a kind asks for. -/
def shape : Kind → Shape
  | note | prompt | negativePrompt | askZoom | loopAddMoodboard | maskAsk | loopLoad => .string
  | config | moveScale | adaptSize | moodboardWeights | inpaintTools | latentSizes | poseJson | loop => .object
  | frames | moodboardRemove => .number
  | canvasSave | loopSave => .path savedExtensions
  | canvasLoad | moodboardAdd | maskLoad => .path imageExtensions
  | faceZoom | removeBackground | canvasClear | crop | moodboardClear | moodboardCanvas | moodboardLoad
  | maskClear | maskGet | maskBackground | maskForeground | maskBody | depthExtract | depthCanvas
  | depthToCanvas | poseExtract | poseClear | loopEnd | finish => .flag

/-- The string of such an entry names a file that a run writes. -/
def savesFile : Kind → Bool
  | canvasSave | loopSave => true
  | _ => false

/-- The string of such an entry names a file or a directory that a run reads. -/
def loadsFile : Kind → Bool
  | canvasLoad | moodboardAdd | maskLoad | loopLoad | loopAddMoodboard => true
  | _ => false

theorem ofKey?_key (kind : Kind) : ofKey? kind.key = some kind := by cases kind <;> decide +kernel

theorem key_of_ofKey? {key : String} {kind : Kind} (h : ofKey? key = some kind) : kind.key = key := by
  simpa using List.find?_some h

theorem key_injective {first second : Kind} (h : first.key = second.key) : first = second :=
  Option.some.inj (by rw [← ofKey?_key first, h, ofKey?_key])

end Kind

end CanvasScript
