import CanvasScript.Shortcut.Substitution
import CanvasScript.Shortcut.Tables
import CanvasScript.Shortcut.Wildcard

/-!
# Resolvers

A resolver has the four tables and a cap on passes. A prompt is resolved by
triggers and then wildcards, round after round until neither changes it; the
strings inside a payload are resolved one by one, its keys and all else are kept.
-/

namespace CanvasScript.Shortcut

open Json (Value Fields)

/-- Tables and how many passes they may take. -/
structure Resolver where
  tables : Tables
  cap : Option Nat
  /-- Passes after which resolving without a cap is given up. -/
  fuel : Nat

namespace Resolver

/-- The cap when none is given. -/
def defaultCap : Nat := 64

def limit (r : Resolver) : Limit := .ofCap r.fuel r.cap

/-- Triggers replaced in a prompt. -/
def triggers (r : Resolver) (text : List Char) : Resolving (List Char) :=
  substitute r.limit r.tables.triggers text

/-- Configuration shortcuts replaced in a string. -/
def configuration (r : Resolver) (text : List Char) : Resolving (List Char) :=
  substitute r.limit r.tables.configuration text

/-- Pose shortcuts replaced in a string. -/
def poses (r : Resolver) (text : List Char) : Resolving (List Char) :=
  substitute r.limit r.tables.poses text

/-- Wildcards of a prompt expanded. -/
def wildcards (r : Resolver) (text : List Char) : Resolving (List Char) :=
  expand r.limit r.tables.wildcards text

/-- A round of triggers and then wildcards. -/
def promptRound (r : Resolver) (text : List Char) : Resolving (List Char) := do
  r.wildcards (← r.triggers text)

/-- A prompt that neither triggers nor wildcards change. -/
def prompt (r : Resolver) (text : List Char) : Resolving (List Char) := r.limit.settle r.promptRound text

end Resolver

/-- A function on texts as one on strings. -/
def onString (resolve : List Char → Resolving (List Char)) (s : String) : Resolving String := do
  return String.ofList (← resolve s.toList)

mutual

/-- A value with every string inside it resolved. -/
def resolveStrings (resolve : List Char → Resolving (List Char)) : Value → Resolving Value
  | .string s => do return .string (← onString resolve s)
  | .array items => do return .array (← resolveItems resolve items)
  | .object fields => do return .object (← resolveFields resolve fields)
  | v => pure v

/-- The elements of a list with every string inside them resolved. -/
def resolveItems (resolve : List Char → Resolving (List Char)) : List Value → Resolving (List Value)
  | [] => pure []
  | v :: rest => do
    let w ← resolveStrings resolve v
    return w :: (← resolveItems resolve rest)

/-- The fields of an object with every string inside their values resolved. -/
def resolveFields (resolve : List Char → Resolving (List Char)) :
    List (String × Value) → Resolving (List (String × Value))
  | [] => pure []
  | (key, v) :: rest => do
    let w ← resolveStrings resolve v
    return (key, w) :: (← resolveFields resolve rest)

end

namespace Resolver

/-- The fields of a configuration payload resolved. -/
def configFields (r : Resolver) (fields : Fields) : Resolving Fields := resolveFields r.configuration fields

/-- A pose resolved. -/
def pose (r : Resolver) (v : Value) : Resolving Value := resolveStrings r.poses v

end Resolver

end CanvasScript.Shortcut
