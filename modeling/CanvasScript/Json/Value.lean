import CanvasScript.Binary64

/-!
# JSON values

Whole numbers that fit 64 bits are kept apart from all others, which are
floating-point. The fields of an object are a list of pairs; `Fields.insert`
keeps them sorted by key, one pair for each.
-/

namespace CanvasScript.Json

/-- A JSON value. -/
inductive Value where
  | null
  | bool (b : Bool)
  | int (n : Int)
  | float (x : Binary64)
  | string (s : String)
  | array (items : List Value)
  | object (fields : List (String × Value))
  deriving Inhabited

/-- The fields of an object. -/
abbrev Fields := List (String × Value)

namespace Value

/-- The name of the type of a value. -/
def typeName : Value → String
  | null => "null"
  | bool _ => "boolean"
  | int _ | float _ => "number"
  | string _ => "string"
  | array _ => "array"
  | object _ => "object"

def string? : Value → Option String
  | string s => some s
  | _ => none

def fields? : Value → Option Fields
  | object fields => some fields
  | _ => none

/-- A number of either kind as the nearest floating-point number. -/
def number? : Value → Option Binary64
  | int n => some (Binary64.ofInt n)
  | float x => some x
  | _ => none

/-- A floating-point number as a value: one that is not finite has none and is null. -/
def ofBinary64 (x : Binary64) : Value := if x.isFinite then float x else null

/-- A value or null. -/
def ofOption (f : α → Value) : Option α → Value
  | none => null
  | some a => f a

end Value

namespace Fields

/-- The value of the first pair with the key. -/
def get? (key : String) (fields : Fields) : Option Value :=
  (fields.find? fun field => field.1 == key).map (·.2)

/-- The fields with the value under the key, in place of the one it has or before
the first greater key. -/
def insert (key : String) (value : Value) : Fields → Fields
  | [] => [(key, value)]
  | (k, v) :: rest =>
    if key < k then (key, value) :: (k, v) :: rest
    else if key = k then (key, value) :: rest
    else (k, v) :: insert key value rest

/-- The fields with every field of `patch` put in. -/
def overlay (fields patch : Fields) : Fields :=
  patch.foldl (fun fields (key, value) => insert key value fields) fields

/-- Sorted fields of a list of pairs; of those with one key the last counts. -/
def ofList (pairs : List (String × Value)) : Fields := overlay [] pairs

theorem get?_nil (key : String) : get? key [] = none := rfl

/-- A field that was put in is found. -/
theorem get?_insert_self (key : String) (value : Value) (fields : Fields) :
    get? key (insert key value fields) = some value := by
  induction fields with
  | nil => simp [insert, get?]
  | cons field rest ih =>
    obtain ⟨k, v⟩ := field
    simp only [insert]
    split
    · simp [get?]
    · split
      · simp [get?]
      · rename_i different
        have apart : (k == key) = false := by simpa using Ne.symm different
        simpa [get?, List.find?_cons, apart] using ih

/-- Another field is found as before. -/
theorem get?_insert_of_ne {key other : String} (h : other ≠ key) (value : Value) (fields : Fields) :
    get? other (insert key value fields) = get? other fields := by
  have apart : (key == other) = false := by simpa using Ne.symm h
  induction fields with
  | nil => simp [insert, get?, apart]
  | cons field rest ih =>
    obtain ⟨k, v⟩ := field
    simp only [insert]
    split
    · simp [get?, apart]
    · split
      · rename_i same
        subst same
        simp [get?, apart]
      · simp only [get?, List.find?_cons] at ih ⊢
        split
        · rfl
        · exact ih

end Fields

end CanvasScript.Json
