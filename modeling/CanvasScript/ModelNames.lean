import CanvasScript.Script

/-!
# Names of models

The models that a script asks for stand in its configuration entries, under
fields of certain names at any depth.
-/

namespace CanvasScript

open Json

/-- Fields that name a model. -/
def modelFields : List String := ["model", "refinerModel", "file", "upscaler"]

mutual

/-- The model names inside a value, a field of such a name being looked at and not into. -/
def modelsIn : Value → List String
  | .object fields => modelsInFields fields
  | .array items => modelsInItems items
  | _ => []

/-- The model names inside the elements of a list. -/
def modelsInItems : List Value → List String
  | [] => []
  | v :: rest => modelsIn v ++ modelsInItems rest

/-- The model names inside the fields of an object. -/
def modelsInFields : List (String × Value) → List String
  | [] => []
  | (key, v) :: rest =>
    (if modelFields.contains key then v.string?.toList else modelsIn v) ++ modelsInFields rest

end

/-- The model names of an entry. -/
def modelsOfEntry (entry : Value) : List String :=
  match splitEntry entry with
  | .ok (key, v) => if key = Kind.config.key then modelsIn v else []
  | .error _ => []

/-- The model names of a script, in the order of its entries. -/
def modelNames (entries : List Value) : List String := entries.flatMap modelsOfEntry

theorem modelNames_append (first second : List Value) :
    modelNames (first ++ second) = modelNames first ++ modelNames second := by
  simp [modelNames]

end CanvasScript
