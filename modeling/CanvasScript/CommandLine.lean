import CanvasScript.CommandLine.Arguments
import CanvasScript.Disk
import CanvasScript.Session

/-!
# Command line

`check` prints the preflight of a script, `resolve` resolves a prompt, and `run`
runs a script on a host that records what it was asked to do. What a command prints
is a function of its arguments and of what is on the disk.
-/

namespace CanvasScript.CommandLine

open Json (Value)

/-- What a command prints and its exit code. -/
structure Response where
  code : Nat
  output : String
  /-- What it prints for the eyes only, beside the output. -/
  remark : String
  deriving DecidableEq

/-- A value printed with an element a line. -/
def printed (code : Nat) (v : Value) : Response := { code, output := v.pretty ++ "\n", remark := "" }

/-- The failure of a command printed. -/
def failed (code : Nat) (message : String) : Response :=
  let v : Value := .object [("error", .string message), ("success", .bool false)]
  { code, output := v.compact ++ "\n", remark := "" }

/-- The text of a file, or what is printed without it. -/
def textOf (disk : Disk) (path : String) : Except String String :=
  (disk.read path).mapError fun reason => s!"Cannot read {path}: {reason}"

/-- The tables in a file; all are empty without one. -/
def tablesOf (disk : Disk) : Option String → Except String Shortcut.Tables
  | none => .ok .empty
  | some path => do
    let text ← textOf disk path
    (Shortcut.Tables.ofText text).mapError fun mistake => s!"Invalid macro tables: {mistake.message}"

/-- The settings in a file; without one they are the defaults. -/
def settingsOf (disk : Disk) : Option String → Except String Settings
  | none => .ok .default
  | some path => (Settings.ofFile (disk.read path)).mapError SettingsError.message

/-- Passes after which resolving without a cap is given up. -/
def fuel : Nat := 1000000

/-- The exit code for a script that is not valid. -/
def invalidCode : Nat := 2

def check (text : String) : Response :=
  let report := Preflight.ofText text
  printed (if report.valid then 0 else invalidCode) report.toJson

def resolve (session : Session) (text : String) : Response :=
  match session.resolvePrompt text with
  | .ok resolved => printed 0 (.object [("success", .bool true), ("text", .string resolved)])
  | .error e => failed 1 e.message

/-- Runs a text on a host; the fields of the output are sorted. -/
def run (session : Session) (host : Host) (text : String) : Response :=
  match (session.run text).run host with
  | (.ok report, host) =>
    printed 0 (Value.object
      [("calls", .array (host.calls.toList.map Call.toJson)), ("report", report.toJson),
        ("success", .bool true)]).canonical
  | (.error (.invalid warnings), _) => failed invalidCode (SessionError.invalid warnings).message
  | (.error e, _) => failed 1 e.message

/-- The host of a run: it draws nothing, and lists the directories of the disk. -/
def hostOf (disk : Disk) (pictures : String) : Host := { Host.ofPictures pictures with disk }

/-- What a command prints with its settings, or why it failed. -/
def answer (disk : Disk) (seed : UInt64) (settings : Settings) : Command → Except String Response
  | .check file => do return check (← textOf disk file)
  | .resolve macros text => do
    let tables ← tablesOf disk macros
    return resolve { tables, settings, fuel, seed } text
  | .run file macros pictures => do
    let text ← textOf disk file
    let tables ← tablesOf disk macros
    return run { tables, settings, fuel, seed } (hostOf disk pictures) text

/-- How the program is called. -/
def usage : String :=
  "Usage: canvasscript [OPTIONS] <COMMAND>\n\nCommands:\n" ++
    "  check    Print the preflight of a script (-f, --file <FILE>)\n" ++
    "  resolve  Resolve a prompt (-t, --text <TEXT>) with tables (-m, --macros <FILE>)\n" ++
    "  run      Run a script (-f, --file <FILE>) with tables (-m, --macros <FILE>)\n" ++
    "           and paths starting from a directory (-p, --pictures <DIRECTORY>)\n" ++
    "  help     Print this text\n\nOptions:\n" ++
    "  -s, --settings <FILE>    Settings\n" ++
    "      --log-level <LEVEL>  Level of the log\n" ++
    "  -h, --help               Print this text\n"

/-- What a command line prints. -/
def respond (disk : Disk) (seed : UInt64) (arguments : List String) : Response :=
  match Invocation.ofArguments arguments with
  | .error .help => { code := 0, output := usage, remark := "" }
  | .error .misuse => { code := 2, output := "", remark := usage }
  | .ok invocation =>
    let outcome := do answer disk seed (← settingsOf disk invocation.settings) invocation.command
    match outcome with
    | .ok response => response
    | .error message => failed 1 message

/-- The files that a command line reads. -/
def Invocation.files (invocation : Invocation) : List String :=
  invocation.settings.toList ++
    match invocation.command with
    | .check file => [file]
    | .resolve macros _ => macros.toList
    | .run file macros _ => file :: macros.toList

/-- The directories that a run of a text may list, its paths starting from `pictures`. -/
def directoriesOf (pictures text : String) : List String :=
  match readEntries text with
  | .error _ => []
  | .ok entries => entries.filterMap fun entry =>
    match splitEntry entry with
    | .ok (_, v) => v.string?.map (FilePath.join pictures)
    | .error _ => none

end CanvasScript.CommandLine
