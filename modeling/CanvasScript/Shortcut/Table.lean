import CanvasScript.Text.Occurrence

/-!
# Tables of shortcuts

A table gives texts for keys, in the order in which the keys were first put in;
the order decides where keys overlap. No key is in a table twice.
-/

namespace CanvasScript.Shortcut

/-- The keys of a list of pairs. -/
def keysOf (entries : List (String × String)) : List String := entries.map Prod.fst

/-- The pairs with `value` under the key, in the place the key has or behind all others. -/
def put (key value : String) : List (String × String) → List (String × String)
  | [] => [(key, value)]
  | (k, v) :: rest => if k = key then (k, value) :: rest else (k, v) :: put key value rest

theorem mem_keysOf_put {key value other : String} {entries : List (String × String)} :
    other ∈ keysOf (put key value entries) ↔ other = key ∨ other ∈ keysOf entries := by
  induction entries with
  | nil => simp [put, keysOf]
  | cons entry rest ih =>
    obtain ⟨k, v⟩ := entry
    by_cases same : k = key
    · subst same
      simp [put, keysOf]
    · simp only [put, same, if_false, keysOf, List.map_cons, List.mem_cons] at ih ⊢
      rw [ih]
      exact or_left_comm

theorem nodup_keysOf_put {key value : String} {entries : List (String × String)}
    (h : (keysOf entries).Nodup) : (keysOf (put key value entries)).Nodup := by
  induction entries with
  | nil => simp [put, keysOf]
  | cons entry rest ih =>
    obtain ⟨k, v⟩ := entry
    by_cases same : k = key
    · simpa [put, same, keysOf] using h
    · have apart := List.nodup_cons.1 h
      simp only [put, same, if_false]
      refine List.nodup_cons.2 ⟨fun mem => ?_, ih apart.2⟩
      rcases mem_keysOf_put.1 mem with eq | old
      · exact same eq
      · exact apart.1 old

/-- Texts for keys, in the order of the keys. -/
structure Table where
  entries : List (String × String)
  distinct : (keysOf entries).Nodup

namespace Table

def empty : Table := { entries := [], distinct := List.nodup_nil }

instance : Inhabited Table := ⟨empty⟩

/-- The table with `value` under the key. -/
def insert (table : Table) (key value : String) : Table where
  entries := put key value table.entries
  distinct := nodup_keysOf_put table.distinct

/-- The table of a list of pairs, put in one after the other. -/
def ofList (pairs : List (String × String)) : Table :=
  pairs.foldl (fun table (key, value) => table.insert key value) empty

/-- The text for a key. -/
def get? (table : Table) (key : String) : Option String :=
  (table.entries.find? fun entry => entry.1 == key).map Prod.snd

def size (table : Table) : Nat := table.entries.length

/-- The keys that occur in their own text; substituting them never ends. -/
def selfReferential (table : Table) : List String :=
  (table.entries.filter fun (key, value) => !key.isEmpty && Text.occurs key.toList value.toList).map Prod.fst

theorem ofList_append (first second : List (String × String)) :
    ofList (first ++ second) = second.foldl (fun table (key, value) => table.insert key value) (ofList first) := by
  simp [ofList]

end Table

end CanvasScript.Shortcut
