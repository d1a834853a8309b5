import CanvasScript.Proofs.Shortcut.FullyResolved
import CanvasScript.Proofs.Text.Weights

/-!
# Keys inside their own texts

Replacing goes from the first occurrence of a key to what stands behind it
(`Text.exists_first_occurrence`). So the text that is put in place of a key that occurs stands
in what comes out, and a longer one makes the whole longer. A key that its own text holds is
therefore left by every pass, and every pass changes the text: there is no end to substituting
it (`Shortcut.selfReference_never_settles`).
-/

namespace CanvasScript

namespace Text

variable {key value text : List Char}

/-- What is skipped plays no part in replacing. -/
theorem replaceFrom_eq_replace_drop (key value : List Char) (skip : Nat) (text : List Char) :
    replaceFrom key value skip text = replace key value (text.drop skip) := by
  induction text generalizing skip with
  | nil => simp [replaceFrom, replace]
  | cons c text ih =>
    cases skip with
    | zero => rfl
    | succ skip =>
      rw [List.drop_succ_cons]
      exact ih skip

/-- A key that occurs is replaced where it occurs first, and then in what stands behind. -/
theorem exists_first_occurrence (nonempty : key ≠ []) (found : key <:+: text) (value : List Char) :
    ∃ before behind, text = before ++ key ++ behind ∧
      replace key value text = before ++ value ++ replace key value behind := by
  induction text with
  | nil => exact absurd (List.infix_nil.1 found) nonempty
  | cons c text ih =>
    by_cases here : key <+: c :: text
    · have whole := drop_of_key_here nonempty here
      refine ⟨[], text.drop (key.length - 1), by simpa using whole, ?_⟩
      have taken : (!key.isEmpty && key.isPrefixOf (c :: text)) = true := by
        simp [nonempty, here]
      rw [replace, replaceFrom, if_pos taken, replaceFrom_eq_replace_drop]
      rfl
    · have later : key <:+: text := (List.infix_cons_iff.1 found).resolve_left here
      obtain ⟨before, behind, whole, replaced⟩ := ih later
      refine ⟨c :: before, behind, by simp [whole], ?_⟩
      have passed : ¬(!key.isEmpty && key.isPrefixOf (c :: text)) = true := by
        simp [here]
      rw [replace, replaceFrom, if_neg passed]
      simpa [replace] using replaced

/-- The text put in place of a key that occurs stands in what comes out. -/
theorem infix_replace (nonempty : key ≠ []) (found : key <:+: text) (value : List Char) :
    value <:+: replace key value text := by
  obtain ⟨before, behind, -, replaced⟩ := exists_first_occurrence nonempty found value
  rw [replaced]
  exact List.infix_append before value _

/-- Putting something longer in place of a key makes no text shorter. -/
theorem length_le_replace (nonempty : key ≠ []) (longer : key.length ≤ value.length) (text : List Char) :
    text.length ≤ (replace key value text).length := by
  -- Replacing goes on behind the whole key, so the induction is on the length and not on the characters.
  induction size : text.length using Nat.strongRecOn generalizing text with
  | ind n ih =>
    by_cases found : key <:+: text
    · obtain ⟨before, behind, whole, replaced⟩ := exists_first_occurrence nonempty found value
      have some_char : 0 < key.length := List.length_pos_iff.2 nonempty
      have parts : n = before.length + key.length + behind.length := by
        rw [← size, whole, List.length_append, List.length_append]
      have rest := ih behind.length (by omega) behind rfl
      rw [replaced, List.length_append, List.length_append]
      omega
    · have missing : occurs key text = false := by
        rw [← Bool.not_eq_true, occurs_iff]
        exact found
      rw [replace_of_not_occurs missing]
      omega

/-- Putting something longer in place of a key that occurs makes a text longer. -/
theorem length_lt_replace (nonempty : key ≠ []) (longer : key.length < value.length) (found : key <:+: text) :
    text.length < (replace key value text).length := by
  obtain ⟨before, behind, whole, replaced⟩ := exists_first_occurrence nonempty found value
  have rest := length_le_replace nonempty (Nat.le_of_lt longer) behind
  rw [replaced, whole]
  simp only [List.length_append]
  omega

/-- A text that holds another and is not that other is longer. -/
theorem length_lt_of_infix (inside : key <:+: value) (different : value ≠ key) : key.length < value.length := by
  have at_most := inside.length_le
  have other : key.length ≠ value.length := fun same => different (inside.eq_of_length same).symm
  omega

end Text

namespace Shortcut

/-- A loop fails that never comes to a text which its pass would give back. -/
theorem run_settling_of_restless {f : List Char → List Char} (Restless : List Char → Prop)
    (change : ∀ text, Restless text → f text ≠ text) (kept : ∀ text, Restless text → Restless (f text))
    (error : ResolveError) (left : Nat) {text : List Char} (restless : Restless text) (d : Draws) :
    (settling (fun text d => (f text, d)) error left text).run d = (.error error, d) := by
  induction left generalizing text with
  | zero => rfl
  | succ left ih =>
    rw [run_settling_succ, if_neg (change text restless)]
    exact ih (kept text restless)

section SingleEntry

variable {key value : String}

theorem substitutePass_single (key value : String) (text : List Char) :
    substitutePass (.ofList [(key, value)]) text = Text.replace key.toList value.toList text := rfl

/-- Under no limit does the substitution of a key end that its own text holds. -/
theorem run_substitute_of_inside (nonempty : key ≠ "") (different : value ≠ key)
    (inside : key.toList <:+: value.toList) {text : List Char} (found : key.toList <:+: text) (limit : Limit)
    (d : Draws) : (substitute limit (.ofList [(key, value)]) text).run d = (.error limit.error, d) := by
  have some_char : key.toList ≠ [] := by simpa using nonempty
  have longer : key.toList.length < value.toList.length :=
    Text.length_lt_of_infix inside fun same => different (String.toList_injective same)
  rw [substitute_eq_settling]
  apply run_settling_of_restless (key.toList <:+: ·)
  · intro text found same
    have growth := Text.length_lt_replace some_char longer found
    rw [substitutePass_single] at same
    rw [same] at growth
    exact Nat.lt_irrefl _ growth
  · intro text found
    rw [substitutePass_single]
    exact inside.trans (Text.infix_replace some_char found value.toList)
  · exact found

/-- A text without the key is given back by the first pass. -/
theorem run_substitute_of_missing {text : List Char} (missing : ¬key.toList <:+: text) {limit : Limit}
    (some_pass : limit.passes ≠ 0) (d : Draws) :
    (substitute limit (.ofList [(key, value)]) text).run d = (.ok text, d) := by
  have stays : substitutePass (.ofList [(key, value)]) text = text := by
    rw [substitutePass_single]
    apply Text.replace_of_not_occurs
    rw [← Bool.not_eq_true, Text.occurs_iff]
    exact missing
  exact (substitute_eq_self_iff some_pass).2 stays d

end SingleEntry

/-- **A key inside its own text is never substituted to the end.** A table that only has a key
and a longer text with the key in it tells so. Where the key occurs, substitution fails after all
passes that a cap allows, and is given up without one; any other text is given back. -/
theorem selfReference_never_settles {key value : String} (nonempty : key ≠ "") (different : value ≠ key)
    (inside : key.toList <:+: value.toList) :
    (Table.ofList [(key, value)]).selfReferential = [key] ∧
      ∀ (text : List Char) (d : Draws),
        (key.toList <:+: text →
          (∀ cap fuel, (substitute (.ofCap fuel (some cap)) (.ofList [(key, value)]) text).run d =
            (.error (.didNotConverge (max 1 cap)), d)) ∧
          ∀ fuel, (substitute (.ofCap fuel none) (.ofList [(key, value)]) text).run d = (.error .unfinished, d)) ∧
        (¬key.toList <:+: text → ∀ cap fuel,
          (substitute (.ofCap fuel (some cap)) (.ofList [(key, value)]) text).run d = (.ok text, d)) := by
  constructor
  · have flagged : (!key.isEmpty && Text.occurs key.toList value.toList) = true := by
      simp [nonempty, Text.occurs_iff.2 inside]
    have entries : (Table.ofList [(key, value)]).entries = [(key, value)] := rfl
    simp [Table.selfReferential, entries, flagged]
  · intro text d
    refine ⟨fun found => ⟨?_, ?_⟩, ?_⟩
    · intro cap fuel
      exact run_substitute_of_inside nonempty different inside found (.ofCap fuel (some cap)) d
    · intro fuel
      exact run_substitute_of_inside nonempty different inside found (.ofCap fuel none) d
    · intro missing cap fuel
      have some_pass : (Limit.ofCap fuel (some cap)).passes ≠ 0 := passes_ofCap_ne_zero nofun
      exact run_substitute_of_missing missing some_pass d

/-- Occurrences of the key overlap each other, in its own text and in the other. -/
theorem selfReference_never_settles_overlapping :
    let table := Table.ofList [("aa", "aaa")]
    table.selfReferential = ["aa"] ∧
      ∀ d, (substitute (.ofCap 0 (some 3)) table "baaaaa".toList).run d = (.error (.didNotConverge 3), d) ∧
        (substitute (.ofCap 0 (some 0)) table "aa".toList).run d = (.error (.didNotConverge 1), d) ∧
        (substitute (.ofCap 0 (some 3)) table "aba".toList).run d = (.ok "aba".toList, d) := by
  have inside : "aa".toList <:+: "aaa".toList := ⟨[], ['a'], rfl⟩
  obtain ⟨flagged, outcomes⟩ := selfReference_never_settles (by decide) (by decide) inside
  refine ⟨flagged, fun d => ⟨?_, ?_, ?_⟩⟩
  · exact ((outcomes "baaaaa".toList d).1 ⟨['b'], ['a', 'a', 'a'], rfl⟩).1 3 0
  · exact ((outcomes "aa".toList d).1 ⟨[], [], rfl⟩).1 0 0
  · exact (outcomes "aba".toList d).2 (by decide) 3 0

end Shortcut

end CanvasScript
