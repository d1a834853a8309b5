import CanvasScript.Host
import CanvasScript.Run.Loop
import CanvasScript.Settings

/-!
# The stage of a run

What instructions work on: the host, the draws, and the configuration, negative
prompt and mask that the next render will have. What was put right on the way is
noted as a recovery.
-/

namespace CanvasScript

open Json (Value)

/-- Why an instruction failed. -/
inductive EngineError where
  | host (error : HostError)
  | emptyBounds
  | emptyDirectory (directory : String)
  | resolve (error : Shortcut.ResolveError)
  deriving DecidableEq

def EngineError.message : EngineError → String
  | host error => error.message
  | emptyBounds => "Invalid or zero-sized bounding box, nothing to adapt"
  | emptyDirectory directory => s!"Directory not found or is empty: {directory}"
  | resolve error => error.message

/-- What was done in place of something that failed. -/
inductive Recovery where
  | resetZoom
  | emptyMask
  deriving DecidableEq

def Recovery.name : Recovery → String
  | resetZoom => "reset_zoom"
  | emptyMask => "empty_mask"

/-- A recovery, and at which entry and why. -/
structure RecoveryEvent where
  index : Nat
  kind : Kind
  recovery : Recovery
  reason : String
  deriving DecidableEq

def RecoveryEvent.toJson (event : RecoveryEvent) : Value :=
  .object
    [("index", .int event.index), ("kind", .string event.kind.key), ("recovery", .string event.recovery.name),
      ("reason", .string event.reason)]

/-- What the instructions of a run work on. -/
structure Stage where
  host : Host
  draws : Draws
  configuration : Configuration
  negativePrompt : String
  mask : Option MaskHandle
  recoveries : Array RecoveryEvent
  /-- How many renders were made. -/
  renders : Nat

/-- What an instruction does to the stage. -/
abbrev StageAction := Attempt Stage EngineError

namespace Stage

/-- The stage at the start of a run: configuration and negative prompt are the host's. -/
def ofHost (h : Host) (draws : Draws) (configuration : Configuration) (negativePrompt : String) : Stage :=
  { host := h, draws, configuration, negativePrompt, mask := none, recoveries := #[], renders := 0 }

/-- The stage at the start of a run on a host, unless the host does not tell its
configuration or negative prompt. -/
def open? (h : Host) (draws : Draws) : Except HostError Stage :=
  let asked : HostAction (Configuration × String) := do
    let configuration ← Host.getConfiguration
    let negativePrompt ← Host.getNegativePrompt
    return (configuration, negativePrompt)
  match asked.run h with
  | (.ok (configuration, negativePrompt), h) => .ok (ofHost h draws configuration negativePrompt)
  | (.error e, _) => .error e

/-- An operation of the host. -/
def onHost (x : HostAction α) : StageAction α :=
  .onPart Stage.host (fun s host => { s with host }) .host x

/-- Resolving a text with the draws of the stage. -/
def onDraws (x : Shortcut.Resolving α) : StageAction α :=
  .onPart Stage.draws (fun s draws => { s with draws }) .resolve x

def setConfiguration (f : Configuration → Configuration) : StageAction Unit :=
  .modify fun s => { s with configuration := f s.configuration }

def setNegativePrompt (negativePrompt : String) : StageAction Unit := .modify fun s => { s with negativePrompt }

def setMask (mask : Option MaskHandle) : StageAction Unit := .modify fun s => { s with mask }

/-- Notes a recovery. -/
def recover (event : RecoveryEvent) : StageAction Unit :=
  .modify fun s => { s with recoveries := s.recoveries.push event }

/-- The configuration, negative prompt, mask and loop as a record. -/
def stateJson (s : Stage) (frame : Option LoopFrame) : Value :=
  .object
    [("configuration", s.configuration.toJson), ("negativePrompt", .string s.negativePrompt),
      ("mask", .ofOption MaskHandle.toJson s.mask), ("loopFrame", .ofOption LoopFrame.toJson frame)]

end Stage

end CanvasScript
