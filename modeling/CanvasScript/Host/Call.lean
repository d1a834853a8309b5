import CanvasScript.Configuration
import CanvasScript.Json.Writer

/-!
# Calls

What a host was asked to do. Every call has a name, and is written as an object
with the name under `call` and its details behind it.
-/

namespace CanvasScript

open Json (Value)

/-- A mask that a host has made: its name and where its image is. -/
structure MaskHandle where
  id : String
  src : String
  deriving DecidableEq

/-- What is rendered. -/
structure RenderRequest where
  configuration : Configuration
  prompt : String
  negativePrompt : String
  mask : Option MaskHandle

/-- Something that a host was asked to do and did. -/
inductive Call where
  | render (request : RenderRequest)
  | updateCanvasSize (size : Size Binary64)
  | clearCanvas
  | saveImage (path : String) (visibleOnly : Bool)
  | loadImage (path : String)
  | saveImageSrc (src : String)
  | loadImageSrc (src : String)
  | setCanvasZoom (zoom : Binary64)
  | moveCanvas (pan : Point Binary64)
  | detectFaces
  | answer (model question : String)
  | backgroundMask (mask : MaskHandle)
  | foregroundMask (mask : MaskHandle)
  | bodyMask (parts : List BodyPart) (extra : Option Binary64) (mask : MaskHandle)
  | createMask (size : Size Binary64) (value : Binary64) (mask : MaskHandle)
  | fillMaskRectangle (mask : String) (rect : Rect Binary64) (value : Binary64)
  | loadMaskFromSrc (src : String)
  | clearMoodboard
  | addToMoodboard (sources : List String)
  | removeFromMoodboard (slot : Nat)
  | setMoodboardWeight (slot : Nat) (weight : Binary64)
  | extractDepthMap (src : String)
  | loadDepthMap (src : String)
  | saveDepthMapSrc (src : String)
  | loadPoseFromSrc (src : String)
  | loadPoseJson (pose : Value)
  | clearPose
  | settle (millis : Nat)

namespace Call

def name : Call → String
  | render _ => "render"
  | updateCanvasSize _ => "update_canvas_size"
  | clearCanvas => "clear_canvas"
  | saveImage _ _ => "save_image"
  | loadImage _ => "load_image"
  | saveImageSrc _ => "save_image_src"
  | loadImageSrc _ => "load_image_src"
  | setCanvasZoom _ => "set_canvas_zoom"
  | moveCanvas _ => "move_canvas"
  | detectFaces => "detect_faces"
  | answer _ _ => "answer"
  | backgroundMask _ => "background_mask"
  | foregroundMask _ => "foreground_mask"
  | bodyMask _ _ _ => "body_mask"
  | createMask _ _ _ => "create_mask"
  | fillMaskRectangle _ _ _ => "fill_mask_rectangle"
  | loadMaskFromSrc _ => "load_mask_from_src"
  | clearMoodboard => "clear_moodboard"
  | addToMoodboard _ => "add_to_moodboard"
  | removeFromMoodboard _ => "remove_from_moodboard"
  | setMoodboardWeight _ _ => "set_moodboard_weight"
  | extractDepthMap _ => "extract_depth_map"
  | loadDepthMap _ => "load_depth_map"
  | saveDepthMapSrc _ => "save_depth_map_src"
  | loadPoseFromSrc _ => "load_pose_from_src"
  | loadPoseJson _ => "load_pose_json"
  | clearPose => "clear_pose"
  | settle _ => "settle"

end Call

namespace MaskHandle

def toJson (mask : MaskHandle) : Value := .object [("id", .string mask.id), ("src", .string mask.src)]

end MaskHandle

/-- A rectangle as an object. -/
def Rect.toJson (rect : Rect Binary64) : Value :=
  .object
    [("origin", .object [("x", .ofBinary64 rect.origin.x), ("y", .ofBinary64 rect.origin.y)]),
      ("size", .object [("width", .ofBinary64 rect.size.width), ("height", .ofBinary64 rect.size.height)])]

/-- A request as an object; without a mask it has no field for one. -/
def RenderRequest.toJson (request : RenderRequest) : Value :=
  .object
    ([("configuration", request.configuration.toJson), ("prompt", .string request.prompt),
      ("negativePrompt", .string request.negativePrompt)] ++
      (request.mask.map fun mask => ("mask", mask.toJson)).toList)

namespace Call

/-- The details of a call. -/
def details : Call → List (String × Value)
  | render request => [("request", request.toJson)]
  | updateCanvasSize size => [("width", .ofBinary64 size.width), ("height", .ofBinary64 size.height)]
  | saveImage path visibleOnly => [("path", .string path), ("visible_region_only", .bool visibleOnly)]
  | loadImage path => [("path", .string path)]
  | saveImageSrc src | loadImageSrc src | loadMaskFromSrc src | extractDepthMap src | loadDepthMap src
  | saveDepthMapSrc src | loadPoseFromSrc src => [("src", .string src)]
  | setCanvasZoom zoom => [("zoom", .ofBinary64 zoom)]
  | moveCanvas pan => [("x", .ofBinary64 pan.x), ("y", .ofBinary64 pan.y)]
  | answer model question => [("model", .string model), ("question", .string question)]
  | backgroundMask mask | foregroundMask mask => [("mask", mask.toJson)]
  | bodyMask parts extra mask =>
    [("parts", .array (parts.map fun part => .string part.name)), ("extra", .ofOption .ofBinary64 extra),
      ("mask", mask.toJson)]
  | createMask size value mask =>
    [("width", .ofBinary64 size.width), ("height", .ofBinary64 size.height), ("value", .ofBinary64 value),
      ("mask", mask.toJson)]
  | fillMaskRectangle mask rect value =>
    [("mask", .string mask), ("rect", rect.toJson), ("value", .ofBinary64 value)]
  | addToMoodboard sources => [("sources", .array (sources.map .string))]
  | removeFromMoodboard slot => [("index", .int slot)]
  | setMoodboardWeight slot weight => [("index", .int slot), ("weight", .ofBinary64 weight)]
  | loadPoseJson pose => [("pose", pose)]
  | settle millis => [("millis", .int millis)]
  | clearCanvas | detectFaces | clearMoodboard | clearPose => []

def toJson (call : Call) : Value := .object (("call", .string call.name) :: call.details)

end Call

end CanvasScript
