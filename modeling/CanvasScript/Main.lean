import CanvasScript.CommandLine

/-!
# Main program

Reads the files and directories that the command line needs, and prints what it
answers. Without a seed in the settings the draws of wildcards differ from run to run.
-/

namespace CanvasScript.Main

open CommandLine

/-- A reason with its number, which some operations give as its negative. -/
def numbered (code : UInt32) (details : String) : String :=
  s!"{details.capitalize} (os error {if code < 0x80000000 then code else 0 - code})"

/-- The system's reason in an error, with its number. -/
def reasonOf : IO.Error → String
  | .noFileOrDirectory _ _ _ => Disk.missing
  | .permissionDenied _ code details | .inappropriateType _ code details | .resourceExhausted _ code details
  | .invalidArgument _ code details => numbered code details
  | e => toString e

/-- The text of a file, or why it cannot be read. -/
def readText (path : String) : IO (Except String String) := do
  try
    let bytes ← IO.FS.readBinFile path
    return match String.fromUTF8? bytes with
      | some text => .ok text
      | none => .error Disk.notText
  catch e => return .error (reasonOf e)

/-- The names of the plain files in a directory, or why it cannot be listed. -/
def readNames (path : String) : IO (Except String (List String)) := do
  if path.isEmpty then return .ok []
  try
    let entries ← ((← IO.currentDir) / path).readDir
    let files ← entries.filterM fun entry => do
      try return (← entry.path.metadata).type matches .file
      catch _ => return false
    return .ok (files.toList.map fun entry => entry.fileName)
  catch
    | .noFileOrDirectory _ _ _ => return .ok []
    | e => return .error (reasonOf e)

/-- Every path with what is read there. -/
def readAll (read : String → IO (Except String α)) (paths : List String) : IO (List (String × Except String α)) :=
  paths.mapM fun path => do return (path, ← read path)

/-- What an invocation may look at on the disk. -/
def readDisk (invocation : Invocation) : IO Disk := do
  let texts ← readAll readText invocation.files
  let directories := match invocation.command with
    | .run file _ pictures =>
      match texts.lookup file with
      | some (.ok text) => directoriesOf pictures text
      | _ => []
    | _ => []
  return Disk.ofReads texts (← readAll readNames directories)

/-- A seed that is not the same from run to run. -/
def randomSeed : IO UInt64 := do
  return (← IO.getRandomBytes 8).foldl (fun seed byte => seed * 256 + byte.toUInt64) 0

/-- Prints what a command line answers, and gives the exit code. -/
def program (arguments : List String) : IO UInt32 := do
  let disk ← match Invocation.ofArguments arguments with
    | .ok invocation => readDisk invocation
    | .error _ => pure .empty
  let response := respond disk (← randomSeed) arguments
  IO.print response.output
  IO.eprint response.remark
  return response.code.toUInt32

end CanvasScript.Main

def main (arguments : List String) : IO UInt32 := CanvasScript.Main.program arguments
