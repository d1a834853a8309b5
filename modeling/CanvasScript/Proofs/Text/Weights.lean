import CanvasScript.Text.Occurrence
import Mathlib.Algebra.GroupWithZero.Nat
import Mathlib.Data.List.Basic

/-!
# Weights of texts

A weight of characters gives every text the sum of the weights of its characters.
Where the text put in place of a key is lighter than the key, replacing makes a text
lighter exactly when the key occurs in it (`replace_stays_or_lighter`).
-/

namespace CanvasScript.Text

/-- The weights of the characters of a text, added up. -/
def weigh (weight : Char → Nat) (text : List Char) : Nat := (text.map weight).sum

variable {weight : Char → Nat} {key value text : List Char}

@[simp] theorem weigh_cons (c : Char) (text : List Char) :
    weigh weight (c :: text) = weight c + weigh weight text := by
  simp [weigh]

@[simp] theorem weigh_append (first second : List Char) :
    weigh weight (first ++ second) = weigh weight first + weigh weight second := by
  simp [weigh]

theorem weight_le_weigh {c : Char} (mem : c ∈ text) : weight c ≤ weigh weight text := by
  obtain ⟨before, after, rfl⟩ := List.append_of_mem mem
  rw [weigh_append, weigh_cons]
  omega

/-- A text of weightless characters is weightless. -/
theorem weigh_eq_zero (weightless : ∀ c ∈ text, weight c = 0) : weigh weight text = 0 := by
  induction text with
  | nil => rfl
  | cons c text ih =>
    have here := weightless c List.mem_cons_self
    have later := ih fun d mem => weightless d (List.mem_cons_of_mem c mem)
    rw [weigh_cons, here, later]

/-- One character weighs something, and no other. -/
def only (c d : Char) : Nat := if d = c then 1 else 0

theorem weigh_only (c : Char) (text : List Char) : weigh (only c) text = text.count c := by
  induction text with
  | nil => rfl
  | cons d text ih =>
    rw [weigh_cons, ih, only, List.count_cons, Nat.add_comm]
    simp

theorem weigh_only_eq_zero {c : Char} (missing : c ∉ text) : weigh (only c) text = 0 := by
  rw [weigh_only, List.count_eq_zero.2 missing]

/-- What stands behind an occurrence of a key. -/
theorem drop_of_key_here {c : Char} (nonempty : key ≠ []) (here : key <+: c :: text) :
    c :: text = key ++ text.drop (key.length - 1) := by
  obtain ⟨rest, same⟩ := here
  obtain ⟨d, more, rfl⟩ := List.exists_cons_of_ne_nil nonempty
  obtain ⟨rfl, rfl⟩ := List.cons.inj same
  simp

/-- Replacing a key by something that is not heavier makes no text heavier. -/
theorem weigh_replaceFrom_le (le : weigh weight value ≤ weigh weight key) (skip : Nat) (text : List Char) :
    weigh weight (replaceFrom key value skip text) ≤ weigh weight (text.drop skip) := by
  induction text generalizing skip with
  | nil => simp [replaceFrom]
  | cons c text ih =>
    cases skip with
    | succ skip => exact ih skip
    | zero =>
      unfold replaceFrom
      split
      · rename_i found
        simp only [Bool.and_eq_true, Bool.not_eq_true', List.isEmpty_eq_false_iff, List.isPrefixOf_iff_prefix]
          at found
        have rest := ih (key.length - 1)
        rw [List.drop_zero, drop_of_key_here found.1 found.2, weigh_append, weigh_append]
        omega
      · have rest := ih 0
        rw [List.drop_zero] at rest ⊢
        rw [weigh_cons, weigh_cons]
        omega

/-- Replacing a key that occurs by something lighter makes a text lighter. -/
theorem weigh_replaceFrom_lt (lt : weigh weight value < weigh weight key) (skip : Nat) (text : List Char)
    (found : occurs key (text.drop skip) = true) :
    weigh weight (replaceFrom key value skip text) < weigh weight (text.drop skip) := by
  have nonempty : key ≠ [] := by
    rintro rfl
    exact Nat.not_lt_zero _ lt
  induction text generalizing skip with
  | nil =>
    rw [List.drop_nil, occurs_iff, List.infix_nil] at found
    exact absurd found nonempty
  | cons c text ih =>
    cases skip with
    | succ skip => exact ih skip found
    | zero =>
      unfold replaceFrom
      split
      · rename_i here
        simp only [Bool.and_eq_true, Bool.not_eq_true', List.isEmpty_eq_false_iff, List.isPrefixOf_iff_prefix]
          at here
        have rest := weigh_replaceFrom_le (Nat.le_of_lt lt) (key.length - 1) text
        rw [List.drop_zero, drop_of_key_here here.1 here.2, weigh_append, weigh_append]
        omega
      · rename_i elsewhere
        have later : occurs key text = true := by
          simp only [Bool.and_eq_true, Bool.not_eq_true', List.isEmpty_eq_false_iff] at elsewhere
          simp only [List.drop_zero, occurs, Bool.or_eq_true] at found
          exact found.resolve_left fun here => elsewhere ⟨nonempty, here⟩
        have rest := ih 0 later
        rw [List.drop_zero] at rest ⊢
        rw [weigh_cons, weigh_cons]
        omega

/-- Replacing by something lighter leaves a text as it is where the key does not occur,
and makes it lighter where it does. -/
theorem replace_stays_or_lighter (lt : weigh weight value < weigh weight key) (text : List Char) :
    (replace key value text = text ∧ occurs key text = false) ∨
      (weigh weight (replace key value text) < weigh weight text ∧ occurs key text = true) := by
  cases found : occurs key text with
  | false => exact .inl ⟨replace_of_not_occurs found, rfl⟩
  | true => exact .inr ⟨weigh_replaceFrom_lt lt 0 text found, rfl⟩

/-- An empty key has no occurrences. -/
theorem replace_empty (value text : List Char) : replace [] value text = text := by
  induction text with
  | nil => rfl
  | cons c text ih => simpa [replace, replaceFrom] using ih

end CanvasScript.Text
