import CanvasScript.Validation
import CanvasScript.Violation.Record

/-!
# Preflight

What a script will touch, told before it runs: the violations it has, the models
it asks for, the files it reads and writes and how often it renders.
-/

namespace CanvasScript

/-- Whether a run writes a file or reads it. -/
inductive Direction where
  | save
  | load
  deriving DecidableEq

def Direction.name : Direction → String
  | save => "save"
  | load => "load"

/-- A file or directory that an entry names. -/
structure FileUse where
  index : Nat
  kind : Kind
  path : String
  direction : Direction
  deriving DecidableEq

/-- A model and, once a host was asked, whether it is there. -/
structure ModelStatus where
  name : String
  downloaded : Option Bool
  deriving DecidableEq

/-- What a script will touch. -/
structure Preflight where
  valid : Bool
  count : Nat
  warnings : List String
  violations : List Violation
  models : List ModelStatus
  files : List FileUse
  /-- How many entries render. -/
  renders : Nat
  deriving DecidableEq

/-- Whether a kind writes or reads the file it names. -/
def Kind.direction? (kind : Kind) : Option Direction :=
  if kind.savesFile then some .save else if kind.loadsFile then some .load else none

namespace Preflight

/-- The kind of an entry and its value. -/
def kindOf? (entry : Json.Value) : Option (Kind × Json.Value) :=
  match splitEntry entry with
  | .ok (key, v) => (Kind.ofKey? key).map fun kind => (kind, v)
  | .error _ => none

/-- The file named by the entry at a position. -/
def fileUse? (index : Nat) (entry : Json.Value) : Option FileUse := do
  let (kind, v) ← kindOf? entry
  let direction ← kind.direction?
  let path ← v.string?
  return { index, kind, path, direction }

/-- The files named by the entries from a position on. -/
def filesFrom (index : Nat) : List Json.Value → List FileUse
  | [] => []
  | entry :: entries => (fileUse? index entry).toList ++ filesFrom (index + 1) entries

/-- The entry renders. -/
def isRender (entry : Json.Value) : Bool :=
  match kindOf? entry with
  | some (kind, _) => decide (kind = .prompt)
  | none => false

/-- What a validation alone tells. -/
def ofValidation (v : Validation) : Preflight where
  valid := v.valid
  count := v.count
  warnings := v.warnings
  violations := v.violations
  models := v.models.map fun name => { name, downloaded := none }
  files := []
  renders := 0

def ofEntries (entries : List Json.Value) : Preflight :=
  { ofValidation (Validation.ofEntries entries) with
    files := filesFrom 0 entries
    renders := entries.countP isRender }

/-- The preflight of a text; one that cannot be read gives a warning and nothing else. -/
def ofText (text : String) : Preflight :=
  match readEntries text with
  | .ok entries => ofEntries entries
  | .error m => ofValidation (Validation.ofMistake m)

/-- The report with what a host says about its models, as far as the answers go. -/
def withAnswers (report : Preflight) (present : List Bool) : Preflight :=
  { report with models := go report.models present }
where
  go : List ModelStatus → List Bool → List ModelStatus
    | status :: models, downloaded :: present =>
      { status with downloaded := some downloaded } :: go models present
    | models, _ => models

/-- The names of the models that are known to be missing. -/
def missingModels (report : Preflight) : List String :=
  (report.models.filter fun status => status.downloaded == some false).map ModelStatus.name

open Json Violation in
/-- The report as a record. -/
def toJson (report : Preflight) : Value :=
  .object
    [("valid", .bool report.valid),
      ("instruction_count", ofNat report.count),
      ("warnings", .array (report.warnings.map .string)),
      ("violations", .array (report.violations.map Violation.toJson)),
      ("models", .array (report.models.map fun status => .object
        (("name", .string status.name) :: (status.downloaded.map fun b => ("downloaded", .bool b)).toList))),
      ("files", .array (report.files.map fun file => .object
        [("index", ofNat file.index), ("kind", .string file.kind.key), ("path", .string file.path),
          ("direction", .string file.direction.name)])),
      ("render_count", ofNat report.renders)]

end Preflight

end CanvasScript
