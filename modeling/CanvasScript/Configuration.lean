import CanvasScript.Instruction
import CanvasScript.View

/-!
# Configurations

A configuration is an object of settings for rendering. The library knows the
fields for the size, the number of frames and the latent sizes and passes all
others on.
-/

namespace CanvasScript

open Json (Value Fields)

/-- Settings for rendering, as the fields of an object. -/
structure Configuration where
  fields : Fields

namespace Configuration

def empty : Configuration := { fields := [] }

instance : Inhabited Configuration := ⟨empty⟩

def get? (c : Configuration) (field : String) : Option Value := c.fields.get? field

def set (c : Configuration) (field : String) (v : Value) : Configuration :=
  { fields := Json.Fields.insert field v c.fields }

/-- Every field of `patch` put in, whole. -/
def merge (c : Configuration) (patch : Fields) : Configuration := { fields := Json.Fields.overlay c.fields patch }

/-- The number in a field, zero when there is none. -/
def number (c : Configuration) (field : String) : Binary64 := ((c.get? field).bind Value.number?).getD .zero

/-- The size that is rendered. -/
def size (c : Configuration) : Size Binary64 where
  width := c.number "width"
  height := c.number "height"

/-- A length as a value: a whole number below `2 ^ 63` is an integer. -/
def lengthValue (x : Binary64) : Value :=
  if x.isWhole && decide (x.truncated.natAbs < Binary64.int64Bound) then .int x.truncated else Value.ofBinary64 x

def setSize (c : Configuration) (size : Size Binary64) : Configuration :=
  (c.set "width" (lengthValue size.width)).set "height" (lengthValue size.height)

def setFrames (c : Configuration) (frames : Value) : Configuration := c.set "numFrames" frames

/-- The latent sizes, widths and heights, from the first tier on. -/
def latentSizes : List (Nat × Nat) :=
  [(256, 192), (512, 384), (768, 576), (1024, 768), (1280, 960), (1536, 1152), (1792, 1344), (2048, 1536)]

/-- The latent size of a tier; a number beyond the last tier or before the first
gives that one. -/
def latentSize (tier : Binary64) : Nat × Nat :=
  latentSizes.getD (max 1 (min tier.toInt64 latentSizes.length) - 1).toNat (0, 0)

/-- The width and the height of a latent size put under two fields. -/
def setLatent (c : Configuration) (width height : String) (tier : Binary64) : Configuration :=
  (c.set width (.int (latentSize tier).1)).set height (.int (latentSize tier).2)

def setLatentSizes (c : Configuration) (tiers : LatentTiers) : Configuration :=
  ((c.setLatent "originalImageWidth" "originalImageHeight" tiers.source).setLatent
    "targetImageWidth" "targetImageHeight" tiers.target).setLatent
    "negativeOriginalImageWidth" "negativeOriginalImageHeight" tiers.negative

def toJson (c : Configuration) : Value := .object c.fields

end Configuration

end CanvasScript
