import CanvasScript.Attempt
import CanvasScript.Draws

/-!
# Passes over a text

Resolving repeats a pass over a text until a pass leaves it as it is
(`settleFrom`). The passes that change the text are counted, and after each of them the
count is held against the cap. Without a cap there is still some number of passes
after which resolving is given up, which is an outcome of its own.
-/

namespace CanvasScript.Shortcut

/-- Why a text was not resolved. -/
inductive ResolveError where
  /-- The text still changed after so many passes. -/
  | didNotConverge (passes : Nat)
  /-- Resolving without a cap was given up. -/
  | unfinished
  deriving DecidableEq

def ResolveError.message : ResolveError → String
  | didNotConverge passes => s!"Macro expansion did not converge after {passes} passes (cyclic table?)"
  | unfinished => "Macro expansion was given up"

/-- Resolving uses up draws and may fail. -/
abbrev Resolving := Attempt Draws ResolveError

/-- What ends resolving when the passes do not: a cap on those that change the text, or without
one the number of passes after which it is given up. -/
inductive Limit where
  | capped (cap : Nat)
  | uncapped (fuel : Nat)

/-- The limit of a cap; without one, `fuel` passes are made before giving up. -/
def Limit.ofCap (fuel : Nat) : Option Nat → Limit
  | some cap => .capped cap
  | none => .uncapped fuel

/-- So many passes have changed the text, which must be fewer than a cap. -/
def checkPasses (passes : Nat) : (cap : Option Nat) → Resolving Unit
  | some cap => if cap ≤ passes then .fail (.didNotConverge passes) else pure ()
  | none => pure ()

/-- The text when a pass leaves it as it is, `passes` of them having changed it before. -/
def settleFrom (pass : List Char → Resolving (List Char)) (cap : Option Nat) :
    (fuel passes : Nat) → List Char → Resolving (List Char)
  | 0, _, _ => .fail .unfinished
  | fuel + 1, passes, text => do
    let next ← pass text
    if next = text then return text
    else
      checkPasses (passes + 1) cap
      settleFrom pass cap fuel (passes + 1) next

/-- The text when a pass leaves it as it is, within a limit. The count reaches a cap before
there are more passes than the cap and one. -/
def Limit.settle (limit : Limit) (pass : List Char → Resolving (List Char)) (text : List Char) :
    Resolving (List Char) :=
  match limit with
  | capped cap => settleFrom pass (some cap) (cap + 1) 0 text
  | uncapped fuel => settleFrom pass none fuel 0 text

end CanvasScript.Shortcut
