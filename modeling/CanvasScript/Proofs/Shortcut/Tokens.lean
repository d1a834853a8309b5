import CanvasScript.Proofs.Text.Weights
import CanvasScript.Shortcut.Wildcard
import Mathlib.Data.List.TakeWhile

/-!
# Tokens in a text

A token stands in a text where it is read from some place on; only a sign starts one,
so no token starts inside another (`Token.standsIn_of_ofText?`). It is resolvable when
it names a text with options and has no number that fits none of them. A pass that
meets no resolvable token gives the text back and draws nothing. Where the options
weigh nothing and the sign does, every other pass makes the text lighter
(`expandFrom_stays_or_lighter`).
-/

namespace CanvasScript.Shortcut

open Text (weigh isBlank isDecimalDigit isAsciiDigit trim)

theorem mem_of_mem_segments {c : Char} {text segment : List Char} (mem : segment ∈ segments text)
    (here : c ∈ segment) : c ∈ text := by
  induction text generalizing segment with
  | nil =>
    obtain rfl := List.mem_singleton.1 mem
    exact here
  | cons d text ih =>
    rw [List.mem_cons]
    unfold segments at mem
    split at mem
    · rcases List.mem_cons.1 mem with rfl | later
      · cases here
      · exact .inr (ih later here)
    · split at mem
      · obtain rfl := List.mem_singleton.1 mem
        exact .inl (List.mem_singleton.1 here)
      · rename_i first more split_text
        rcases List.mem_cons.1 mem with rfl | later
        · rcases List.mem_cons.1 here with rfl | later
          · exact .inl rfl
          · exact .inr (ih (split_text ▸ List.mem_cons_self) later)
        · exact .inr (ih (split_text ▸ List.mem_cons_of_mem first later) here)

theorem mem_of_mem_trim {c : Char} {text : List Char} (h : c ∈ trim text) : c ∈ text := by
  unfold trim at h
  rw [List.mem_reverse] at h
  have inside := List.mem_reverse.1 ((List.dropWhile_sublist isBlank).subset h)
  exact (List.dropWhile_sublist isBlank).subset inside

/-- The characters of options are characters of the text they are cut from. -/
theorem mem_of_mem_options {c : Char} {text option : List Char} (mem : option ∈ options text) (here : c ∈ option) :
    c ∈ text := by
  unfold options at mem
  obtain ⟨segment, inside, rfl⟩ := List.mem_map.1 (List.mem_filter.1 mem).1
  exact mem_of_mem_segments inside (mem_of_mem_trim here)

namespace Token

variable {table : Table} {token other : Token} {c : Char} {text : List Char}

/-- The token is read from some place of the text on. -/
def StandsIn (token : Token) (text : List Char) : Prop := ∃ rest, rest <:+ text ∧ ofText? rest = some token

/-- The token names a text with options, and its number, if it has one, is that of an option. -/
def IsResolvable (table : Table) (token : Token) : Prop :=
  token.optionsIn table ≠ [] ∧ ∀ digits, token.number? = some digits →
    ∃ n, index? digits = some n ∧ 1 ≤ n ∧ n ≤ (token.optionsIn table).length

theorem drop_length_takeWhile (p : Char → Bool) (text : List Char) :
    text.drop (text.takeWhile p).length = text.dropWhile p := by
  calc text.drop (text.takeWhile p).length
    _ = (text.takeWhile p ++ text.dropWhile p).drop (text.takeWhile p).length := by
      rw [List.takeWhile_append_dropWhile]
    _ = text.dropWhile p := List.drop_left

theorem bracketed?_eq_some {digits : List Char} (h : bracketed? text = some digits) :
    '$' ∉ digits ∧ ∃ rest, text = '[' :: digits ++ ']' :: rest := by
  unfold bracketed? at h
  split at h
  · rename_i behind
    dsimp only at h
    split at h
    · rename_i closed
      obtain rfl := Option.some.inj h
      rw [drop_length_takeWhile] at closed
      simp only [Bool.and_eq_true, beq_iff_eq, List.head?_eq_some_iff] at closed
      obtain ⟨-, rest, bracket⟩ := closed
      constructor
      · intro sign
        have digit := List.mem_takeWhile_imp sign
        revert digit
        decide
      · refine ⟨rest, ?_⟩
        rw [List.cons_append, ← bracket, List.takeWhile_append_dropWhile]
    · cases h
  · cases h

/-- A token is read off the text it is written by, and only its first character is a sign. -/
theorem ofText?_eq_some (h : ofText? text = some token) :
    ∃ name rest, token.chars = '$' :: name ∧ '$' ∉ name ∧ text = token.chars ++ rest := by
  unfold ofText? at h
  split at h
  · rename_i behind
    dsimp only at h
    rw [drop_length_takeWhile] at h
    split at h
    · cases h
    · obtain rfl := Option.some.inj h
      have no_sign : '$' ∉ behind.takeWhile isWord := by
        intro sign
        have word := List.mem_takeWhile_imp sign
        revert word
        decide
      have whole : behind.takeWhile isWord ++ behind.dropWhile isWord = behind :=
        List.takeWhile_append_dropWhile
      cases number : bracketed? (behind.dropWhile isWord) with
      | none =>
        refine ⟨behind.takeWhile isWord, behind.dropWhile isWord, by simp [chars], no_sign, ?_⟩
        simp [chars, whole]
      | some digits =>
        obtain ⟨no_sign', rest, bracket⟩ := bracketed?_eq_some number
        refine ⟨behind.takeWhile isWord ++ '[' :: digits ++ [']'], rest, by simp [chars], ?_, ?_⟩
        · simp [no_sign, no_sign']
        · conv_lhs => rw [← whole, bracket]
          simp [chars]
  · cases h

theorem ofText?_of_ne (ne : c ≠ '$') (text : List Char) : ofText? (c :: text) = none := by
  unfold ofText?
  split
  · rename_i same
    exact absurd (List.cons.inj same).1 ne
  · rfl

theorem not_standsIn_nil : ¬token.StandsIn [] := by
  rintro ⟨rest, suffix, read⟩
  obtain rfl := List.suffix_nil.1 suffix
  cases read

/-- Where no token is read, none starts. -/
theorem standsIn_cons_iff (h : ofText? (c :: text) = none) : token.StandsIn (c :: text) ↔ token.StandsIn text := by
  constructor
  · rintro ⟨rest, suffix, read⟩
    rcases List.suffix_cons_iff.1 suffix with rfl | later
    · rw [h] at read
      cases read
    · exact ⟨rest, later, read⟩
  · rintro ⟨rest, suffix, read⟩
    exact ⟨rest, suffix.trans (List.suffix_cons c text), read⟩

/-- No token starts in a text without signs. -/
theorem standsIn_append_iff {before : List Char} (no_sign : '$' ∉ before) :
    token.StandsIn (before ++ text) ↔ token.StandsIn text := by
  induction before with
  | nil => rfl
  | cons c before ih =>
    simp only [List.mem_cons, not_or] at no_sign
    rw [List.cons_append, standsIn_cons_iff (ofText?_of_ne (Ne.symm no_sign.1) _), ih no_sign.2]

/-- Behind the token that a text starts with the rest of the text follows. -/
theorem eq_chars_append (read : ofText? (c :: text) = some token) :
    c :: text = token.chars ++ text.drop (token.chars.length - 1) := by
  obtain ⟨name, rest, written, -, whole⟩ := ofText?_eq_some read
  rw [written, List.cons_append] at whole
  obtain ⟨rfl, rfl⟩ := List.cons.inj whole
  simp [written]

theorem sign_mem_chars (read : ofText? text = some token) : '$' ∈ token.chars := by
  obtain ⟨name, -, written, -⟩ := ofText?_eq_some read
  rw [written]
  exact List.mem_cons_self

/-- A token in a text that starts with one is that one or stands behind it. -/
theorem standsIn_of_ofText? (read : ofText? (c :: text) = some token) (h : other.StandsIn (c :: text)) :
    other = token ∨ other.StandsIn (text.drop (token.chars.length - 1)) := by
  obtain ⟨name, rest, written, no_sign, whole⟩ := ofText?_eq_some read
  rw [written, List.cons_append] at whole
  obtain ⟨rfl, rfl⟩ := List.cons.inj whole
  obtain ⟨place, suffix, other_read⟩ := h
  rcases List.suffix_cons_iff.1 suffix with rfl | later
  · rw [read] at other_read
    exact .inl (Option.some.inj other_read).symm
  · right
    have behind := (standsIn_append_iff no_sign).1 ⟨place, later, other_read⟩
    rw [written]
    simpa using behind

/-- There is an option with a number from one on up to the number of options. -/
theorem exists_numbered?_iff {options : List (List Char)} {digits : List Char} :
    (∃ option, numbered? options digits = some option) ↔
      ∃ n, index? digits = some n ∧ 1 ≤ n ∧ n ≤ options.length := by
  unfold numbered?
  cases index? digits with
  | none => simp
  | some n =>
    cases n with
    | zero => simp
    | succ n => simp [← Option.isSome_iff_exists, Nat.succ_le_iff]

theorem mem_of_numbered? {options : List (List Char)} {digits option : List Char}
    (h : numbered? options digits = some option) : option ∈ options := by
  unfold numbered? at h
  obtain ⟨n, -, found⟩ := Option.bind_eq_some_iff.1 h
  split at found
  · cases found
  · exact List.mem_of_getElem? found

theorem pick_of_number {digits : List Char} (some_option : token.optionsIn table ≠ [])
    (number : token.number? = some digits) (d : Draws) :
    token.pick table d = ((numbered? (token.optionsIn table) digits).getD token.chars, d) := by
  simp [pick, some_option, number]

/-- What cannot be resolved stays as it is written, and nothing is drawn for it. -/
theorem pick_of_not_resolvable (h : ¬token.IsResolvable table) (d : Draws) :
    token.pick table d = (token.chars, d) := by
  by_cases no_option : token.optionsIn table = []
  · simp [pick, no_option]
  · unfold IsResolvable at h
    rw [not_and, not_forall] at h
    obtain ⟨digits, h⟩ := h no_option
    rw [Classical.not_imp, ← exists_numbered?_iff, ← Option.isSome_iff_exists, Bool.not_eq_true,
      Option.isSome_eq_false_iff, Option.isNone_iff_eq_none] at h
    rw [pick_of_number no_option h.1, h.2]
    rfl

/-- What can be resolved becomes an option. -/
theorem pick_mem_of_resolvable (h : token.IsResolvable table) (d : Draws) :
    (token.pick table d).1 ∈ token.optionsIn table := by
  obtain ⟨some_option, numbered⟩ := h
  cases number : token.number? with
  | none =>
    have pos : 0 < (token.optionsIn table).length := List.length_pos_iff.2 some_option
    have below := Draws.below_lt pos d.patience d
    simp [pick, some_option, number, List.getD, below]
  | some digits =>
    obtain ⟨option, here⟩ := exists_numbered?_iff.2 (numbered digits number)
    rw [pick_of_number some_option number, here]
    exact mem_of_numbered? here

/-- The characters of options are characters of the table's texts. -/
theorem mem_table_of_mem_optionsIn {option : List Char} (mem : option ∈ token.optionsIn table) (here : c ∈ option) :
    ∃ entry ∈ table.entries, c ∈ entry.2.toList := by
  unfold optionsIn at mem
  cases found : table.get? (String.ofList token.name) with
  | none =>
    rw [found] at mem
    cases mem
  | some value =>
    rw [found] at mem
    obtain ⟨entry, known, rfl⟩ := Option.map_eq_some_iff.1 found
    exact ⟨entry, List.mem_of_find?_eq_some known, mem_of_mem_options mem here⟩

end Token

/-- No token stands in the text that the table resolves. -/
def Table.HasNoToken (table : Table) (text : List Char) : Prop :=
  ∀ token : Token, token.StandsIn text → ¬token.IsResolvable table

/-- The texts of the table weigh nothing. -/
def Table.IsWeightless (table : Table) (weight : Char → Nat) : Prop :=
  ∀ entry ∈ table.entries, ∀ c ∈ entry.2.toList, weight c = 0

section Expansion

variable {weight : Char → Nat} {table : Table} {token : Token}

/-- Options of a weightless table weigh nothing. -/
theorem weigh_pick_of_resolvable (weightless : table.IsWeightless weight) (resolvable : token.IsResolvable table)
    (d : Draws) : weigh weight (token.pick table d).1 = 0 := by
  apply Text.weigh_eq_zero
  intro c here
  obtain ⟨entry, mem, inside⟩ := Token.mem_table_of_mem_optionsIn (Token.pick_mem_of_resolvable resolvable d) here
  exact weightless entry mem c inside

/-- A pass draws nothing and gives the text back where no resolvable token stands; it
makes any other text lighter if the options weigh nothing and the sign does. -/
theorem expandFrom_stays_or_lighter (weightless : table.IsWeightless weight) (heavy : 0 < weight '$') (skip : Nat)
    (text : List Char) (d : Draws) :
    (expandFrom table skip text d = (text.drop skip, d) ∧ table.HasNoToken (text.drop skip)) ∨
      (weigh weight (expandFrom table skip text d).1 < weigh weight (text.drop skip) ∧
        ¬table.HasNoToken (text.drop skip)) := by
  induction text generalizing skip d with
  | nil =>
    left
    cases skip <;> exact ⟨rfl, fun token standing => absurd standing Token.not_standsIn_nil⟩
  | cons c text ih =>
    cases skip with
    | succ skip => exact ih skip d
    | zero =>
      cases read : Token.ofText? (c :: text) with
      | none =>
        have same_tokens : table.HasNoToken (c :: text) ↔ table.HasNoToken text :=
          forall_congr' fun token => imp_congr_left (Token.standsIn_cons_iff read)
        rw [expandFrom_of_none read, List.drop_zero, same_tokens]
        rcases ih 0 d with ⟨stays, no_token⟩ | ⟨lighter, some_token⟩
        · left
          rw [stays]
          exact ⟨rfl, no_token⟩
        · right
          refine ⟨?_, some_token⟩
          rw [Text.weigh_cons, Text.weigh_cons]
          exact Nat.add_lt_add_left lighter _
      | some token =>
        have whole := Token.eq_chars_append read
        rw [expandFrom_of_token read, List.drop_zero]
        by_cases resolvable : token.IsResolvable table
        · right
          refine ⟨?_, fun no_token => no_token token ⟨c :: text, List.suffix_rfl, read⟩ resolvable⟩
          have chosen := weigh_pick_of_resolvable weightless resolvable d
          have sign : 0 < weigh weight token.chars :=
            Nat.lt_of_lt_of_le heavy (Text.weight_le_weigh (Token.sign_mem_chars read))
          have behind : weigh weight (expandFrom table (token.chars.length - 1) text (token.pick table d).2).1 ≤
              weigh weight (text.drop (token.chars.length - 1)) := by
            rcases ih (token.chars.length - 1) (token.pick table d).2 with ⟨stays, -⟩ | ⟨lighter, -⟩
            · rw [stays]
            · exact Nat.le_of_lt lighter
          rw [whole, Text.weigh_append, Text.weigh_append]
          omega
        · rw [Token.pick_of_not_resolvable resolvable]
          rcases ih (token.chars.length - 1) d with ⟨stays, no_token⟩ | ⟨lighter, some_token⟩
          · left
            rw [stays]
            refine ⟨by rw [← whole], fun other standing => ?_⟩
            rcases Token.standsIn_of_ofText? read standing with rfl | behind
            · exact resolvable
            · exact no_token other behind
          · right
            constructor
            · rw [whole, Text.weigh_append, Text.weigh_append]
              exact Nat.add_lt_add_left lighter _
            · intro no_token
              apply some_token
              rintro other ⟨rest, suffix, other_read⟩
              have inside : rest <:+ c :: text :=
                suffix.trans ((List.drop_suffix _ text).trans (List.suffix_cons c text))
              exact no_token other ⟨rest, inside, other_read⟩

end Expansion

end CanvasScript.Shortcut
