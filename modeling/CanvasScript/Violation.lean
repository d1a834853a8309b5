import CanvasScript.Script

/-!
# Violations

What can be wrong with a script before it runs, and the line that tells its
author. All but a text that cannot be read name the entry they are about.
-/

namespace CanvasScript

/-- Something wrong with a script. -/
inductive Violation where
  /-- The text is no list. -/
  | malformedText (message : String)
  | malformedEntry (index : Nat) (defect : Malformed)
  | unknownKey (index : Nat) (key : String)
  | wrongType (index : Nat) (kind : Kind) (expected actual : String)
  | wrongExtension (index : Nat) (kind : Kind) (allowed : List String) (actual : String)
  /-- The value is of the right type and the payload cannot be used. -/
  | unusablePayload (index : Nat) (kind : Kind) (message : String)
  deriving DecidableEq

namespace Violation

/-- The entry a violation is about. -/
def index? : Violation → Option Nat
  | malformedText _ => none
  | malformedEntry index _ | unknownKey index _ | wrongType index _ _ _ | wrongExtension index _ _ _
  | unusablePayload index _ _ => some index

/-- The violation of an entry that stands `count` places later. -/
def shift (count : Nat) : Violation → Violation
  | malformedText message => malformedText message
  | malformedEntry index defect => malformedEntry (index + count) defect
  | unknownKey index key => unknownKey (index + count) key
  | wrongType index kind expected actual => wrongType (index + count) kind expected actual
  | wrongExtension index kind allowed actual => wrongExtension (index + count) kind allowed actual
  | unusablePayload index kind message => unusablePayload (index + count) kind message

/-- The line that warns of a violation. -/
def message : Violation → String
  | malformedText _ => "Invalid JSON - please see the Troubleshoot suggestions"
  | malformedEntry index defect => s!"Item {index}: {defect.describe}"
  | unknownKey index key => s!"Item {index}: Invalid key \"{key}\""
  | wrongType index kind expected actual =>
    s!"Item {index}: \"{kind.key}\" - Expected {expected} but got {actual}"
  | wrongExtension index kind allowed actual =>
    s!"Item {index}: \"{kind.key}\" - Invalid file path or extension. Expected " ++
      ", ".intercalate (allowed.map fun extension => s!".{extension}") ++ s!" but got \"{actual}\""
  | unusablePayload index kind message => s!"Item {index}: \"{kind.key}\" - {message}"

end Violation

end CanvasScript
