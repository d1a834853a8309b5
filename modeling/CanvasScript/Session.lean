import CanvasScript.Digest
import CanvasScript.Preflight.Availability
import CanvasScript.Run

/-!
# Sessions

A session has the tables and the settings that scripts are run with. Running a
text checks it first: nothing reaches the host unless the preflight is valid.
-/

namespace CanvasScript

open Json (Value)

/-- What scripts are run with. -/
structure Session where
  tables : Shortcut.Tables
  settings : Settings
  /-- Passes after which resolving without a cap is given up. -/
  fuel : Nat
  /-- The seed of the draws when the settings have none. -/
  seed : UInt64

/-- Why a text was not run to its end. -/
inductive SessionError where
  /-- The preflight was not valid. -/
  | invalid (warnings : List String)
  | text (mistake : Json.Mistake)
  | payload (error : PayloadError)
  /-- The host could not be opened. -/
  | host (error : HostError)
  | run (error : RunError)

def SessionError.message : SessionError → String
  | invalid warnings => "Validation failed: " ++ "; ".intercalate warnings
  | text mistake => s!"Serialization error: {mistake.message}"
  | payload error => error.message
  | host error => s!"Backend unavailable: {error.message}"
  | run error => error.message

/-- The version of the engine in reports. -/
def engineVersion : String := "1.0.0"

/-- What is told of a text that was run. -/
structure Report where
  digest : String
  preflight : Preflight
  summary : RunSummary

def Report.toJson (report : Report) : Value :=
  .object
    [("engineVersion", .string engineVersion), ("sequenceDigest", .string report.digest),
      ("preflight", report.preflight.toJson), ("summary", report.summary.toJson)]

namespace Session

/-- What the instructions of a run have from the session. -/
def setting (session : Session) : Setting where
  resolver := session.settings.resolver session.tables session.fuel
  settings := session.settings

/-- The draws of the session, from the first on. -/
def draws (session : Session) : Draws := session.settings.draws session.seed

/-- A prompt as an instruction would render it first. -/
def resolvePrompt (session : Session) (text : String) : Except Shortcut.ResolveError String :=
  ((Shortcut.onString session.setting.resolver.prompt text).run session.draws).1

/-- Runs a script on the host. -/
def perform (session : Session) (script : Script) : Attempt Host SessionError RunSummary := fun host =>
  match Stage.open? host session.draws with
  | .error e => (.error (.host e), host)
  | .ok stage =>
    let result := script.run session.setting stage
    (result.summary.mapError .run, result.stage.host)

/-- Runs a text on the host, if its preflight is valid. -/
def run (session : Session) (text : String) : Attempt Host SessionError Report := do
  let preflight := Preflight.ofText text
  if preflight.valid then
    let entries ← .ofExcept ((readEntries text).mapError .text)
    let script ← .ofExcept ((Script.decode entries).mapError .payload)
    let preflight ← preflight.checkModelsIfTold.mapError .host
    let summary ← session.perform script
    return { digest := scriptDigest entries, preflight, summary }
  else .fail (.invalid preflight.warnings)

/-- A text with an invalid preflight is not run, and the host is left as it was. -/
theorem run_of_invalid (session : Session) {text : String} (h : (Preflight.ofText text).valid = false)
    (host : Host) :
    (session.run text).run host = (.error (.invalid (Preflight.ofText text).warnings), host) := by
  simp [run, h]

end Session

end CanvasScript
