import CanvasScript.Proofs.Shortcut.Caps
import CanvasScript.Proofs.Shortcut.Settling

/-!
# Tables with a sigil

A character is the sigil of a table when all of its keys have it and none of its texts
does. The keys may overlap or stand in one another, and a text may complete a key with
what stands around it: every pass that changes anything takes a sigil away all the same.
So substitution ends after as many passes as the text has sigils at the most, and then
no key is left (`substitution_completes`).
-/

namespace CanvasScript.Shortcut

open Text (weigh only)

/-- Every key has the character, and no text does. -/
structure Table.HasSigil (table : Table) (c : Char) : Prop where
  keys : ∀ entry ∈ table.entries, entry.1 ≠ "" → c ∈ entry.1.toList
  texts : ∀ entry ∈ table.entries, c ∉ entry.2.toList

variable {table : Table} {c : Char}

/-- A text has no sigils and a key has some. -/
theorem Table.HasSigil.lighter (sigil : table.HasSigil c) : table.IsLighter (only c) := by
  intro entry mem nonempty
  rw [Text.weigh_only_eq_zero (sigil.texts entry mem), Text.weigh_only]
  exact List.count_pos_iff.2 (sigil.keys entry mem nonempty)

/-- **Substitution over a table with a sigil is complete.** At most as many passes change
the text as it has sigils, and then no key of the table is left in it. Without a cap it
ends there, and so it does under every cap above the number of sigils. -/
theorem substitution_completes (sigil : table.HasSigil c) (text : List Char) :
    ∃ changes ≤ text.count c, ∃ out,
      SettlesAfter (substitutePass table) text changes ∧ out = (substitutePass table)^[changes] text ∧
        table.HasNoKey out ∧
        (∀ fuel > changes, ∀ d, (substitute (.ofCap fuel none) table text).run d = (.ok out, d)) ∧
        ∀ cap > text.count c, ∀ fuel d, (substitute (.ofCap fuel (some cap)) table text).run d = (.ok out, d) := by
  let limit := Limit.ofCap (text.count c + 1) none
  have enough : weigh (only c) text < limit.passes := by
    rw [Text.weigh_only]
    exact Nat.lt_succ_self _
  obtain ⟨out, ends, -, no_key⟩ := substitute_of_lighter sigil.lighter enough (.ofSource fun _ => 0)
  obtain ⟨-, changes, few, settles, result⟩ := run_substitute_eq_ok_iff.1 ends
  refine ⟨changes, Nat.le_of_lt_succ few, out, settles, result, no_key, ?_, ?_⟩
  · intro fuel more d
    exact run_substitute_eq_ok_iff.2 ⟨rfl, changes, more, settles, result⟩
  · intro cap above fuel d
    have within : changes < max 1 cap := by
      have few : changes < text.count c + 1 := few
      omega
    exact run_substitute_eq_ok_iff.2 ⟨rfl, changes, within, settles, result⟩

/-- Keys of which one starts another and one is in front of the key that completes it. -/
def nested : Table := .ofList [("@b", "z"), ("@a", ""), ("@ab", "never")]

/-- The second key leaves its place empty, which joins a sigil to what makes the first key. -/
theorem substitution_completes_nested :
    nested.HasSigil '@' ∧
      (∀ d, (substitute (.ofCap 0 (some 3)) nested ['@', '@', 'a', 'b']).run d = (.ok ['z'], d)) ∧
      nested.HasNoKey ['z'] := by
  have sigil : nested.HasSigil '@' := by
    constructor <;> decide +kernel
  obtain ⟨changes, few, out, settles, rfl, no_key, -, capped⟩ := substitution_completes sigil ['@', '@', 'a', 'b']
  have first : substitutePass nested ['@', '@', 'a', 'b'] = ['@', 'b'] := by decide +kernel
  have second : substitutePass nested ['@', 'b'] = ['z'] := by decide +kernel
  have two : changes = 2 := by
    have at_most : changes ≤ 2 := few
    have few : changes = 0 ∨ changes = 1 ∨ changes = 2 := by omega
    rcases few with rfl | rfl | rfl
    · simp [settlesAfter_zero_iff, first] at settles
    · simp [settlesAfter_succ_iff, settlesAfter_zero_iff, first, second] at settles
    · rfl
  subst two
  have result : (substitutePass nested)^[2] ['@', '@', 'a', 'b'] = ['z'] := by simp [first, second]
  rw [result] at no_key capped
  exact ⟨sigil, capped 3 (by decide) 0, no_key⟩

end CanvasScript.Shortcut
