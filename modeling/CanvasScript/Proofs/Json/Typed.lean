import CanvasScript.Json.Typed
import CanvasScript.Proofs.Json.Printing
import CanvasScript.Proofs.Json.Tagged

/-!
# Objects of texts are read as they are written

A reader that asks for a string takes what spells one (`text_sound`, `text_complete`), and one that
asks for an object of strings takes what spells such an object, with the keys in the order of the
text and the repeated ones among them (`pairs_sound`, `pairs_complete`). What is written for such an
object spells it (`asWritten_textFields`).
-/

namespace CanvasScript.Json

variable {α β : Type} {cs core : List Char} {depth : Nat}

section Changed

variable {Element : List Char → β → Prop} {f : α → β} {first : Bool}

/-- Elements that are made of others are spelled just as those that they are made of. -/
theorem itemsText_map_iff {as : List α} :
    ItemsText Element first cs (as.map f) ↔ ItemsText (fun core a => Element core (f a)) first cs as := by
  constructor
  · intro items
    generalize made : as.map f = bs at items
    induction items generalizing as with
    | done blank =>
      obtain rfl := List.map_eq_nil_iff.1 made
      exact .done blank
    | more leads element behind ih =>
      obtain ⟨a, as, rfl, rfl, rfl⟩ := List.map_eq_cons_iff.1 made
      exact .more leads element (ih rfl)
  · intro items
    induction items with
    | done blank => exact .done blank
    | more leads element behind ih => exact .more leads element ih

theorem fieldText_map_iff {key : String} {a : α} :
    FieldText Element core (key, f a) ↔ FieldText (fun core a => Element core (f a)) core (key, a) := by
  constructor
  · intro text
    generalize made : f a = b at text
    cases text with
    | pair isKey blank blank' element => exact .pair isKey blank blank' (made ▸ element)
  · intro text
    cases text with
    | pair isKey blank blank' element => exact .pair isKey blank blank' element

end Changed

section Texts

theorem spells_quoted {ds : List Char} (inside : StringText cs ds) :
    Spells depth ('"' :: (cs ++ ['"'])) (.string (String.ofList ds)) := by
  have text : Spells 0 ('"' :: (cs ++ ['"'])) (.string (String.ofList ds)) := .string inside
  exact text.mono (Nat.zero_le depth)

theorem text_sound (depth : Nat) : Sound Anything text fun core s => Spells depth core (.string s) := by
  intro input s after _ reads
  obtain ⟨gap, blank, same, -⟩ := exists_of_skipSpaces input
  unfold text at reads
  simp only at reads
  split at reads
  case h_1 => cases reads
  case h_2 tail quote =>
    obtain ⟨body, ds, split, inside, rfl⟩ := string_sound reads
    rw [rest_tail quote] at split
    refine ⟨gap, '"' :: (body ++ ['"']), blank, ?_, spells_quoted inside⟩
    rw [same, quote, split]
    simp
  case h_3 => exact absurd reads (wrongType_ne_ok _ _ _)

theorem text_complete (depth : Nat) : Complete text fun core s => Spells depth core (.string s) := by
  intro gap core rest s blank spells _ place
  obtain ⟨body, ds, rfl, inside, rfl⟩ := spells.quote
  obtain ⟨after, skipped⟩ := skipSpaces_cons blank (c := '"') (by decide) (body ++ '"' :: rest) place
  unfold text
  rw [List.cons_append, List.append_assoc, List.singleton_append, skipped]
  exact string_complete inside rest (after.over '"')

end Texts

section Pairs

/-- The fields of an object of texts. -/
def textFields (pairs : List (String × String)) : Fields := pairs.map fun (key, s) => (key, .string s)

theorem textFields_injective {first second : List (String × String)} (same : textFields first = textFields second) :
    first = second := by
  have apart : Function.Injective fun pair : String × String => (pair.1, Value.string pair.2) := by
    rintro ⟨key, s⟩ ⟨key', s'⟩ both
    simpa using both
  exact List.map_injective_iff.2 apart same

/-- An object of texts is spelled in braces, and so is every text in quotes. -/
theorem spells_textFields_iff {texts : List (String × String)} :
    Spells (depth + 1) core (.object (textFields texts)) ↔
      ∃ inside, core = '\x7b' :: (inside ++ ['\x7d']) ∧
        ItemsText (FieldText fun core s => Spells depth core (.string s)) true inside texts := by
  have each {inside : List Char} :
      ItemsText (FieldText (Spells depth)) true inside (textFields texts) ↔
        ItemsText (FieldText fun core s => Spells depth core (.string s)) true inside texts := by
    rw [textFields, itemsText_map_iff]
    constructor
    · intro items
      exact items.imp fun _ _ => fieldText_map_iff.1
    · intro items
      exact items.imp fun _ _ => fieldText_map_iff.2
  constructor
  · intro spells
    obtain ⟨inside, same, items⟩ := spells.brace
    exact ⟨inside, same, each.1 items⟩
  · rintro ⟨inside, rfl, items⟩
    have text : ContainerText (Spells depth) _ (.object (textFields texts)) := .object (each.2 items)
    exact .container text

theorem pairs_sound (depth : Nat) (expected : String) :
    Sound Anything (pairs text expected) fun core texts => Spells (depth + 1) core (.object (textFields texts)) := by
  intro input texts after _ reads
  obtain ⟨gap, blank, same, -⟩ := exists_of_skipSpaces input
  unfold pairs at reads
  simp only at reads
  split at reads
  case h_1 => cases reads
  case h_2 tail brace =>
    obtain ⟨inside, split, items⟩ := object_sound (text_sound depth) reads
    rw [rest_tail brace] at split
    refine ⟨gap, '\x7b' :: (inside ++ ['\x7d']), blank, ?_, spells_textFields_iff.2 ⟨inside, rfl, items⟩⟩
    rw [same, brace, split]
    simp
  case h_3 => exact absurd reads (wrongType_ne_ok _ _ _)

theorem pairs_complete (depth : Nat) (expected : String) :
    Complete (pairs text expected) fun core texts => Spells (depth + 1) core (.object (textFields texts)) := by
  intro gap core rest texts blank spells _ place
  obtain ⟨inside, rfl, items⟩ := spells_textFields_iff.1 spells
  obtain ⟨after, skipped⟩ := skipSpaces_cons blank (c := '\x7b') (by decide) (inside ++ '\x7d' :: rest) place
  unfold pairs
  rw [List.cons_append, List.append_assoc, List.singleton_append, skipped]
  exact object_complete (text_complete depth) items rest after

/-- The text that is written for texts spells them, repeated keys and all. -/
theorem asWritten_textFields (texts : List (String × String)) :
    asWritten (Value.object (textFields texts)).compact = .ok (.object (textFields texts)) := by
  have each : ∀ field ∈ textFields texts, Spells 0 (compactChars field.2) field.2 := by
    intro field mem
    obtain ⟨pair, -, rfl⟩ := List.mem_map.1 mem
    exact spells_string 0 pair.2
  exact asWritten_compact ((spells_object each).mono (by decide))

end Pairs

end CanvasScript.Json
