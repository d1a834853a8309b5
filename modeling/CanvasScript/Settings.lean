import CanvasScript.Draws.Seeded
import CanvasScript.Json.Typed
import CanvasScript.Shortcut.Resolver

/-!
# Settings

What the owner of a host can set: the model that is asked about the canvas, how
long to wait after changes, the cap on passes and the seed of wildcards. A text
gives any of them; the others keep their defaults.
-/

namespace CanvasScript

open Json (Value)

/-- Settings of a run; delays are in milliseconds. -/
structure Settings where
  askModel : String
  settleDelay : Nat
  moodboardSettleDelay : Nat
  boundsSettleDelay : Nat
  /-- The cap on passes over a text. -/
  maxPasses : Option Nat
  /-- The seed of the draws; without one it is taken from elsewhere. -/
  wildcardSeed : Option Nat
  deriving DecidableEq

/-- Why settings could not be loaded. -/
inductive SettingsError where
  | unreadable (reason : String)
  | invalid (mistake : Json.Mistake)

def SettingsError.message : SettingsError → String
  | unreadable reason => s!"Cannot read settings file: {reason}"
  | invalid mistake => s!"Invalid settings: {mistake.message}"

namespace Settings

def default : Settings where
  askModel := "blip2_eva_vit_q8p.ckpt"
  settleDelay := 100
  moodboardSettleDelay := 200
  boundsSettleDelay := 200
  maxPasses := some Shortcut.Resolver.defaultCap
  wildcardSeed := none

instance : Inhabited Settings := ⟨default⟩

/-- The names of the settings in a text, and where each belongs. -/
def fields : List (Json.Field Settings) :=
  [.of "askModel" Json.text fun s askModel => { s with askModel },
    .of "settleDelayMs" (Json.natural "u64") fun s settleDelay => { s with settleDelay },
    .of "moodboardSettleDelayMs" (Json.natural "u64") fun s moodboardSettleDelay => { s with moodboardSettleDelay },
    .of "boundingBoxSettleDelayMs" (Json.natural "u64") fun s boundsSettleDelay => { s with boundsSettleDelay },
    .of "maxResolutionPasses" (Json.optional (Json.natural "usize")) fun s maxPasses => { s with maxPasses },
    .of "wildcardSeed" (Json.optional (Json.natural "u64")) fun s wildcardSeed => { s with wildcardSeed }]

/-- The settings written by a text. -/
def ofText (text : String) : Except SettingsError Settings :=
  (Json.wholeText (Json.record "struct EngineSettings" fields default) text).mapError .invalid

/-- The settings in a file, of which the text or the reason why it cannot be read is given. -/
def ofFile : Except String String → Except SettingsError Settings
  | .ok text => ofText text
  | .error reason => .error (.unreadable reason)

def toJson (s : Settings) : Value :=
  .object
    [("askModel", .string s.askModel), ("settleDelayMs", .int s.settleDelay),
      ("moodboardSettleDelayMs", .int s.moodboardSettleDelay),
      ("boundingBoxSettleDelayMs", .int s.boundsSettleDelay),
      ("maxResolutionPasses", .ofOption (fun n : Nat => .int n) s.maxPasses),
      ("wildcardSeed", .ofOption (fun n : Nat => .int n) s.wildcardSeed)]

/-- The draws of wildcards, from the seed or else from the one given. -/
def draws (s : Settings) (seed : UInt64) : Draws :=
  Draws.seeded ((s.wildcardSeed.map Nat.toUInt64).getD seed)

/-- A resolver with the tables and the cap of the settings. -/
def resolver (s : Settings) (tables : Shortcut.Tables) (fuel : Nat) : Shortcut.Resolver :=
  { tables, cap := s.maxPasses, fuel }

end Settings

end CanvasScript
