import CanvasScript.Proofs.Json.Printing
import CanvasScript.Proofs.Json.Typed
import CanvasScript.Shortcut.Tables
import Mathlib

/-!
# Tables and what was put into them

However a table comes about, it is told by the pairs that were put into it (`Table.Made`): it is the
table of the list of these pairs, its keys stand in the order in which they first came
(`Table.keysOf_ofList`) and each has the text that came last (`Table.get?_ofList`). What is written
for a table has each key once, so that it is read back as that table (`Table.made_represents`).
-/

namespace CanvasScript.Shortcut

open Json (Anything Complete Sound Spells asWritten nestingLimit textFields)
open Outcome (bind_eq_ok_iff)

variable {key other value : String} {entries pairs : List (String × String)}

section Put

theorem keysOf_concat (entries : List (String × String)) (key value : String) :
    keysOf (entries ++ [(key, value)]) = keysOf entries ++ [key] :=
  List.map_append

theorem not_mem_keysOf_iff : key ∉ keysOf entries ↔ ∀ entry ∈ entries, entry.1 ≠ key := by
  rw [keysOf, ← List.forall_mem_ne', List.forall_mem_map]

theorem put_of_not_mem (new : key ∉ keysOf entries) (value : String) :
    put key value entries = entries ++ [(key, value)] := by
  induction entries with
  | nil => rfl
  | cons entry rest ih =>
    obtain ⟨k, v⟩ := entry
    obtain ⟨apart, later⟩ := not_or.1 (mt List.mem_cons.2 new)
    rw [put, if_neg (Ne.symm apart), ih later]
    rfl

theorem keysOf_put_of_mem (known : key ∈ keysOf entries) (value : String) :
    keysOf (put key value entries) = keysOf entries := by
  induction entries with
  | nil => cases known
  | cons entry rest ih =>
    obtain ⟨k, v⟩ := entry
    by_cases same : k = key
    · rw [put, if_pos same]
      rfl
    · have later : key ∈ keysOf rest := (List.mem_cons.1 known).resolve_left (Ne.symm same)
      rw [put, if_neg same]
      exact congrArg (k :: ·) (ih later)

theorem find?_put_self (key value : String) (entries : List (String × String)) :
    (put key value entries).find? (fun entry => entry.1 == key) = some (key, value) := by
  induction entries with
  | nil => simp [put]
  | cons entry rest ih =>
    obtain ⟨k, v⟩ := entry
    by_cases same : k = key
    · simp [put, same]
    · simpa [put, same] using ih

theorem find?_put_of_ne (different : other ≠ key) (value : String) (entries : List (String × String)) :
    (put key value entries).find? (fun entry => entry.1 == other) = entries.find? fun entry => entry.1 == other := by
  induction entries with
  | nil => simp [put, Ne.symm different]
  | cons entry rest ih =>
    obtain ⟨k, v⟩ := entry
    by_cases same : k = key
    · simp [put, same, Ne.symm different]
    · simp only [put, same, if_false, List.find?_cons, ih]

end Put

namespace Table

variable {table : Table}

section Views

/-- A table is its entries. -/
theorem eq_of_entries {first second : Table} (same : first.entries = second.entries) : first = second := by
  cases first
  cases second
  cases same
  rfl

theorem get?_insert (table : Table) (key value other : String) :
    (table.insert key value).get? other = if other = key then some value else table.get? other := by
  unfold get? insert
  split
  case isTrue same =>
    subst same
    rw [find?_put_self]
    rfl
  case isFalse different => rw [find?_put_of_ne different]

theorem get?_of_mem (mem : (key, value) ∈ table.entries) : table.get? key = some value := by
  have found := Json.find?_key table.distinct mem
  rw [get?, found]
  rfl

/-- The entries are the keys in their order, each with its text. -/
theorem entries_eq_filterMap (table : Table) :
    table.entries = (keysOf table.entries).filterMap fun key => (table.get? key).map fun value => (key, value) := by
  have each : ∀ entry ∈ table.entries, ((table.get? entry.1).map fun value => (entry.1, value)) = some entry := by
    rintro ⟨key, value⟩ mem
    rw [get?_of_mem mem]
    rfl
  rw [keysOf, List.filterMap_map]
  exact ((List.filterMap_congr each).trans List.filterMap_some).symm

end Views

section OfList

theorem ofList_concat (pairs : List (String × String)) (key value : String) :
    ofList (pairs ++ [(key, value)]) = (ofList pairs).insert key value := by
  rw [ofList_append]
  rfl

theorem entries_ofList_concat (pairs : List (String × String)) (key value : String) :
    (ofList (pairs ++ [(key, value)])).entries = put key value (ofList pairs).entries := by
  rw [ofList_concat]
  rfl

/-- The keys are in the order in which they first came: one that is there already keeps its place. -/
theorem keysOf_ofList (pairs : List (String × String)) : keysOf (ofList pairs).entries = (keysOf pairs).eraseDups := by
  -- From behind, since it is the last pair that finds its key in the table or not.
  induction pairs using List.reverseRecOn with
  | nil => rfl
  | append_singleton pairs pair ih =>
    obtain ⟨key, value⟩ := pair
    have known_iff : key ∈ keysOf (ofList pairs).entries ↔ key ∈ keysOf pairs := by
      rw [ih, List.mem_eraseDups]
    rw [entries_ofList_concat, keysOf_concat, List.eraseDups_append, ← ih]
    by_cases known : key ∈ keysOf pairs
    · have none_new : [key].removeAll (keysOf pairs) = [] := by simp [List.removeAll, known]
      rw [keysOf_put_of_mem (known_iff.2 known), none_new]
      exact (List.append_nil _).symm
    · have one_new : [key].removeAll (keysOf pairs) = [key] := by simp [List.removeAll, known]
      rw [put_of_not_mem (mt known_iff.1 known), keysOf_concat, one_new]
      rfl

/-- Under a key is the text that came last: the first one from behind. -/
theorem get?_ofList (pairs : List (String × String)) (key : String) :
    (ofList pairs).get? key = (pairs.reverse.find? fun pair => pair.1 == key).map Prod.snd := by
  induction pairs using List.reverseRecOn with
  | nil => rfl
  | append_singleton pairs pair ih =>
    obtain ⟨k, v⟩ := pair
    rw [ofList_concat, get?_insert, ih, List.reverse_append, List.reverse_singleton, List.singleton_append,
      List.find?_cons]
    by_cases same : key = k
    · simp [same]
    · have apart : (k == key) = false := beq_eq_false_iff_ne.2 (Ne.symm same)
      simp only [same, if_false, apart]

theorem get?_ofList_eq_some_iff : (ofList pairs).get? key = some value ↔
    ∃ before after, pairs = before ++ (key, value) :: after ∧ key ∉ keysOf after := by
  rw [get?_ofList, Option.map_eq_some_iff]
  constructor
  · rintro ⟨⟨k, v⟩, found, rfl⟩
    obtain ⟨same, behind, before, split, others⟩ := List.find?_eq_some_iff_append.1 found
    obtain rfl : k = key := by simpa using same
    refine ⟨before.reverse, behind.reverse, ?_, not_mem_keysOf_iff.2 fun pair mem => ?_⟩
    · rw [← List.reverse_reverse pairs, split]
      simp
    · simpa using others pair (List.mem_reverse.1 mem)
  · rintro ⟨before, after, rfl, missing⟩
    have found : (before ++ (key, value) :: after).reverse.find? (fun pair => pair.1 == key) = some (key, value) := by
      refine List.find?_eq_some_iff_append.2 ⟨beq_self_eq_true key, after.reverse, before.reverse, by simp, ?_⟩
      intro pair mem
      simpa using not_mem_keysOf_iff.1 missing pair (List.mem_reverse.1 mem)
    exact ⟨_, found, rfl⟩

theorem get?_ofList_eq_none_iff : (ofList pairs).get? key = none ↔ key ∉ keysOf pairs := by
  rw [get?_ofList, Option.map_eq_none_iff, List.find?_eq_none, not_mem_keysOf_iff]
  simp only [List.mem_reverse, beq_iff_eq]

/-- Pairs with keys that differ are a table as they are. -/
theorem entries_ofList (distinct : (keysOf pairs).Nodup) : (ofList pairs).entries = pairs := by
  induction pairs using List.reverseRecOn with
  | nil => rfl
  | append_singleton pairs pair ih =>
    obtain ⟨key, value⟩ := pair
    rw [keysOf_concat, List.nodup_append] at distinct
    obtain ⟨before, -, apart⟩ := distinct
    have new : key ∉ keysOf pairs := fun mem => apart key mem key (List.mem_singleton_self key) rfl
    rw [entries_ofList_concat, ih before, put_of_not_mem new]

theorem ofList_entries (table : Table) : ofList table.entries = table :=
  eq_of_entries (entries_ofList table.distinct)

end OfList

section Texts

/-- The characters spell an object of texts, and the table has its pairs put in one after the other. -/
def SpelledBy (depth : Nat) (core : List Char) (table : Table) : Prop :=
  ∃ pairs, Spells (depth + 1) core (.object (textFields pairs)) ∧ ofList pairs = table

theorem reader_sound (depth : Nat) : Sound Anything reader (SpelledBy depth) := by
  intro input table after start reads
  obtain ⟨⟨pairs, last⟩, paired, done⟩ := bind_eq_ok_iff.1 reads
  obtain ⟨rfl, rfl⟩ := Prod.mk.inj (Except.ok.inj done)
  obtain ⟨gap, core, blank, split, spells⟩ := Json.pairs_sound depth _ start paired
  exact ⟨gap, core, blank, split, pairs, spells, rfl⟩

theorem reader_complete (depth : Nat) : Complete reader (SpelledBy depth) := by
  rintro gap core rest table blank ⟨pairs, spells, rfl⟩ closed place
  exact (Json.pairs_complete depth _ blank spells closed place).bind fun place => ⟨place, rfl⟩

/-- **Tables are read as they are written**: every pair of the object that a text spells is put in,
in the order of the text. -/
theorem ofText_eq_ok_iff {text : String} :
    ofText text = .ok table ↔ ∃ pairs, asWritten text = .ok (.object (textFields pairs)) ∧ ofList pairs = table := by
  refine (Json.wholeText_eq_ok_iff_text (reader_sound (nestingLimit - 1)) (reader_complete (nestingLimit - 1))).trans ?_
  simp only [Json.asWritten_eq_ok_iff]
  constructor
  · rintro ⟨gap, core, gap', blank, blank', split, pairs, spells, made⟩
    exact ⟨pairs, ⟨gap, core, gap', blank, blank', split, spells⟩, made⟩
  · rintro ⟨pairs, ⟨gap, core, gap', blank, blank', split, spells⟩, made⟩
    exact ⟨gap, core, gap', blank, blank', split, pairs, spells, made⟩

end Texts

section Made

/-- How a table comes about, and the pairs that have been put into it, the first of them first. -/
inductive Made : List (String × String) → Table → Prop where
  | empty : Made [] empty
  | insert {pairs : List (String × String)} {table : Table} (made : Made pairs table) (key value : String) :
    Made (pairs ++ [(key, value)]) (table.insert key value)
  | ofList (pairs : List (String × String)) : Made pairs (ofList pairs)
  | ofText {text : String} {pairs : List (String × String)} {table : Table}
    (written : asWritten text = .ok (.object (textFields pairs))) (reads : ofText text = .ok table) : Made pairs table

/-- However a table comes about, it is that of the list of its pairs. -/
theorem Made.ofList_eq (made : Made pairs table) : Table.ofList pairs = table := by
  induction made with
  | empty => rfl
  | insert made key value ih => rw [ofList_concat, ih]
  | ofList pairs => rfl
  | @ofText text pairs table written reads =>
    obtain ⟨others, written', made⟩ := ofText_eq_ok_iff.1 reads
    rw [written, Except.ok.injEq, Json.Value.object.injEq] at written'
    rw [Json.textFields_injective written', made]

/-- What a table is after pairs have been put into it. -/
structure Represents (table : Table) (pairs : List (String × String)) : Prop where
  distinct : (keysOf table.entries).Nodup
  /-- The keys are in the order in which they first came. -/
  keys_eq : keysOf table.entries = (keysOf pairs).eraseDups
  /-- A key has the text that came last. -/
  get?_eq_some_iff : ∀ {key value}, table.get? key = some value ↔
    ∃ before after, pairs = before ++ (key, value) :: after ∧ key ∉ keysOf after
  get?_eq_none_iff : ∀ {key}, table.get? key = none ↔ key ∉ keysOf pairs
  /-- Key by key, the entries are these texts and nothing else. -/
  entries_eq : table.entries =
    (keysOf pairs).eraseDups.filterMap fun key => (table.get? key).map fun value => (key, value)
  ofList_eq : ofList pairs = table
  /-- A text with all the pairs, repeated keys among them, is read as the table. -/
  ofText_of_pairs : ∀ {text}, asWritten text = .ok (.object (textFields pairs)) → ofText text = .ok table
  /-- So is a text with the entries, and above all the one that is written for the table. -/
  ofText_of_entries : ∀ {text}, asWritten text = .ok table.toJson → ofText text = .ok table
  ofText_compact : ofText table.toJson.compact = .ok table

/-- **Tables are the pairs put into them**: each key in the place of the first and with the text of
the last, and they are read back as they are from what is written for them. -/
theorem made_represents (made : Made pairs table) : table.Represents pairs := by
  obtain rfl := made.ofList_eq
  have back {text : String} (written : asWritten text = .ok (ofList pairs).toJson) : ofText text = .ok (ofList pairs) :=
    ofText_eq_ok_iff.2 ⟨(ofList pairs).entries, written, ofList_entries (ofList pairs)⟩
  exact {
    distinct := (ofList pairs).distinct
    keys_eq := keysOf_ofList pairs
    get?_eq_some_iff := get?_ofList_eq_some_iff
    get?_eq_none_iff := get?_ofList_eq_none_iff
    entries_eq := by
      rw [← keysOf_ofList]
      exact entries_eq_filterMap (ofList pairs)
    ofList_eq := rfl
    ofText_of_pairs := fun written => ofText_eq_ok_iff.2 ⟨pairs, written, rfl⟩
    ofText_of_entries := back
    ofText_compact := back (Json.asWritten_textFields (ofList pairs).entries) }

/-- The table of a text that has a key twice, into which that key is put once more and then a new one. -/
theorem made_represents_repeatedKey :
    let text := "\x7b\"@a\": \"x\", \"@ab\":\"y\",\n\"@a\":\"z\"\x7d"
    let read := ofList [("@a", "x"), ("@ab", "y"), ("@a", "z")]
    let table := (read.insert "@a" "w").insert "$c" "x|y"
    ofText text = .ok read ∧ keysOf table.entries = ["@a", "@ab", "$c"] ∧ table.get? "@a" = some "w" ∧
      table.get? "@abc" = none ∧ ofText table.toJson.compact = .ok table := by
  intro text read table
  have written : asWritten text = .ok (.object (textFields [("@a", "x"), ("@ab", "y"), ("@a", "z")])) := by cbv
  have reads : ofText text = .ok read := ofText_eq_ok_iff.2 ⟨_, written, rfl⟩
  have made : Made [("@a", "x"), ("@ab", "y"), ("@a", "z"), ("@a", "w"), ("$c", "x|y")] table :=
    .insert (.insert (.ofText written reads) "@a" "w") "$c" "x|y"
  have represents := made_represents made
  refine ⟨reads, represents.keys_eq.trans (by decide +kernel), ?_, ?_, represents.ofText_compact⟩
  · exact represents.get?_eq_some_iff.2 ⟨[("@a", "x"), ("@ab", "y"), ("@a", "z")], [("$c", "x|y")], rfl, by decide⟩
  · exact represents.get?_eq_none_iff.2 (by decide)

end Made

end Table

end CanvasScript.Shortcut
