/-!
# Arguments

The arguments of a command line are options and plain words. An option has a value,
given behind it (`--file x`, `-f x`) or attached (`--file=x`, `-fx`, `-f=x`); only
an attached value may look like an option. No option may be given twice.
-/

namespace CanvasScript.CommandLine

/-- An option of a command. -/
structure Flag where
  long : String
  short : Option Char
  /-- The value is a path and must not be empty. -/
  isPath : Bool
  deriving DecidableEq

/-- Why arguments are no invocation. -/
inductive Refusal where
  /-- They ask for help. -/
  | help
  | misuse
  deriving DecidableEq

/-- What an argument looks like. -/
inductive Argument where
  | long (name : List Char) (attached : Option (List Char))
  | short (letter : Char) (attached : List Char)
  /-- What follows is no option, whatever it looks like. -/
  | separator
  | plain

def Argument.of (argument : String) : Argument :=
  match argument.toList with
  | ['-', '-'] => .separator
  | '-' :: '-' :: rest =>
    match rest.dropWhile (· != '=') with
    | [] => .long rest none
    | _ :: attached => .long (rest.takeWhile (· != '=')) (some attached)
  | '-' :: letter :: attached => .short letter attached
  | _ => .plain

def Argument.isPlain : Argument → Bool
  | plain => true
  | _ => false

/-- The value attached to a letter; none when there is nothing or an empty rest. -/
def attachedToLetter : List Char → Option (List Char)
  | [] => none
  | '=' :: attached => some attached
  | attached => some attached

/-- Options with their values. -/
abbrev Given := List (String × String)

/-- An option put to those given before. -/
def Given.put (given : Given) (flag : Flag) (value : String) : Except Refusal Given :=
  if (given.lookup flag.long).isSome || (flag.isPath && value.isEmpty) then .error .misuse
  else .ok ((flag.long, value) :: given)

/-- An option as it is met: one without an attached value waits for the next argument. -/
def meet (given : Given) (flag : Flag) : Option (List Char) → Except Refusal (Option Flag × Given)
  | none => .ok (some flag, given)
  | some value => do return (none, ← given.put flag (String.ofList value))

/-- Reads one argument that looks like an option. -/
def readOption (flags : List Flag) (given : Given) : Argument → Except Refusal (Option Flag × Given)
  | .long name attached =>
    if name = "help".toList then .error (if attached.isNone then .help else .misuse)
    else
      match flags.find? fun flag => flag.long == String.ofList name with
      | some flag => meet given flag attached
      | none => .error .misuse
  | .short letter attached =>
    if letter = 'h' then .error .help
    else
      match flags.find? fun flag => flag.short == some letter with
      | some flag => meet given flag (attachedToLetter attached)
      | none => .error .misuse
  | .separator | .plain => .error .misuse

/-- The options at the front of arguments and the arguments behind them, `waiting`
being the option that has no value yet. -/
def readOptions (flags : List Flag) :
    (waiting : Option Flag) → Given → List String → Except Refusal (Given × List String)
  | none, given, [] => .ok (given, [])
  | some _, _, [] => .error .misuse
  | some flag, given, value :: rest =>
    if (Argument.of value).isPlain then do readOptions flags none (← given.put flag value) rest
    else .error .misuse
  | none, given, argument :: rest =>
    match Argument.of argument with
    | .plain => .ok (given, argument :: rest)
    | .separator => if rest = [] then .ok (given, []) else .error .misuse
    | option => do
      let (waiting, given) ← readOption flags given option
      readOptions flags waiting given rest

/-- What a command line asks for. -/
inductive Command where
  | check (file : String)
  | resolve (macros : Option String) (text : String)
  | run (file : String) (macros : Option String) (pictures : String)
  deriving DecidableEq

/-- A command and the file of its settings. -/
structure Invocation where
  settings : Option String
  command : Command
  deriving DecidableEq

/-- The options of every command. -/
def globalFlags : List Flag :=
  [{ long := "settings", short := some 's', isPath := true }, { long := "log-level", short := none, isPath := false }]

def fileFlag : Flag := { long := "file", short := some 'f', isPath := true }

def macrosFlag : Flag := { long := "macros", short := some 'm', isPath := true }

def textFlag : Flag := { long := "text", short := some 't', isPath := false }

def picturesFlag : Flag := { long := "pictures", short := some 'p', isPath := true }

/-- The commands by name, with the options of each. -/
def commands : List (String × List Flag) :=
  [("check", [fileFlag]), ("resolve", [macrosFlag, textFlag]), ("run", [fileFlag, macrosFlag, picturesFlag])]

/-- The value of an option that has to be given. -/
def Given.require (given : Given) (flag : Flag) : Except Refusal String :=
  match given.lookup flag.long with
  | some value => .ok value
  | none => .error .misuse

/-- The command of a name with its options. -/
def Command.ofGiven (name : String) (given : Given) : Except Refusal Command :=
  match name with
  | "check" => do return .check (← given.require fileFlag)
  | "resolve" => do return .resolve (given.lookup macrosFlag.long) (← given.require textFlag)
  | "run" => do
    return .run (← given.require fileFlag) (given.lookup macrosFlag.long)
      ((given.lookup picturesFlag.long).getD ".")
  | _ => .error .misuse

/-- The word `help` asks for help, with the name of a command or without. -/
def helpWith (words : List String) : Refusal :=
  match words with
  | [] => .help
  | [name] => if name = "help" ∨ (commands.lookup name).isSome then .help else .misuse
  | _ => .misuse

/-- The invocation that arguments make. Options of every command stand before the
command or behind it, and behind it they count. -/
def Invocation.ofArguments (arguments : List String) : Except Refusal Invocation := do
  let (before, rest) ← readOptions globalFlags none [] arguments
  match rest with
  | [] => .error .misuse
  | name :: rest =>
    if name = "help" then .error (helpWith rest)
    else
      match commands.lookup name with
      | none => .error .misuse
      | some flags =>
        let (given, rest) ← readOptions (globalFlags ++ flags) none [] rest
        if rest.isEmpty then
          return { settings := (given ++ before).lookup "settings", command := ← Command.ofGiven name given }
        else .error .misuse

end CanvasScript.CommandLine
