import CanvasScript.Proofs.Shortcut.Settling

/-!
# Expansion over plain options

Options without signs complete no token, but what stands around them may: an option can
make a longer name out of a token that names nothing, so one pass is not enough. Every
option that is put in takes a sign out of the text all the same. So the expansion of
wildcards ends after as many passes as the text has signs at the most, with as many random
picks at the most, and every token that is left is stuck (`expansion_completes`). How a
loop goes is told by the texts that its passes change (`Settles`).
-/

namespace CanvasScript

namespace Draws

/-- So many choices are made one after the other, each among one at least. -/
inductive Chooses : (choices : Nat) → Draws → Draws → Prop
  | none (d : Draws) : Chooses 0 d d
  | choose {n choices : Nat} {d e : Draws} (some_option : 0 < n)
    (later : Chooses choices (below n d.patience d).2 e) : Chooses (choices + 1) d e

theorem Chooses.append {first second : Nat} {d e f : Draws} (before : Chooses first d e)
    (behind : Chooses second e f) : Chooses (first + second) d f := by
  induction before with
  | none => rwa [Nat.zero_add]
  | choose some_option _ ih =>
    rw [Nat.succ_add]
    exact .choose some_option (ih behind)

end Draws

namespace Shortcut

open Text (weigh only)

section Loops

variable {step : List Char → Draws → List Char × Draws} {error : ResolveError} {text out : List Char}
  {d d' : Draws}

/-- The passes over a text up to one that gives it back, told by the texts that are changed. -/
inductive Settles (step : List Char → Draws → List Char × Draws) :
    List Char → Draws → (changed : List (List Char)) → List Char → Draws → Prop
  | stable {text : List Char} {d d' : Draws} (stays : step text d = (text, d')) : Settles step text d [] text d'
  | change {text next out : List Char} {d e d' : Draws} {changed : List (List Char)}
    (changes : step text d = (next, e)) (different : next ≠ text) (later : Settles step next e changed out d') :
    Settles step text d (text :: changed) out d'

/-- A loop ends when fewer texts are changed than passes are left. -/
theorem run_settling_eq_ok_iff {left : Nat} :
    (settling step error left text).run d = (.ok out, d') ↔
      ∃ changed, changed.length < left ∧ Settles step text d changed out d' := by
  induction left generalizing text d with
  | zero => simp [settling, untilStable]
  | succ left ih =>
    rw [run_settling_succ]
    rcases here : step text d with ⟨next, e⟩
    by_cases stays : next = text
    · subst stays
      rw [if_pos rfl]
      constructor
      · rintro ⟨⟩
        exact ⟨[], Nat.succ_pos left, .stable here⟩
      · rintro ⟨changed, -, settles⟩
        cases settles with
        | stable stays =>
          cases here.symm.trans stays
          rfl
        | change changes different _ =>
          cases here.symm.trans changes
          exact absurd rfl different
    · rw [if_neg stays, ih]
      constructor
      · rintro ⟨changed, few, later⟩
        exact ⟨text :: changed, Nat.succ_lt_succ few, .change here stays later⟩
      · rintro ⟨changed, few, settles⟩
        cases settles with
        | stable same =>
          cases here.symm.trans same
          exact absurd rfl stays
        | change changes _ later =>
          cases here.symm.trans changes
          exact ⟨_, Nat.lt_of_succ_lt_succ few, later⟩

theorem run_expand_eq_ok_iff {limit : Limit} {table : Table} :
    (expand limit table text).run d = (.ok out, d') ↔
      ∃ changed, changed.length < limit.passes ∧ Settles (expandFrom table 0) text d changed out d' := by
  rw [expand_eq_settling]
  exact run_settling_eq_ok_iff

end Loops

namespace Token

variable {table : Table} {token : Token} {text : List Char}

/-- Why a token stays as it is written. -/
inductive Stuck (table : Table) (token : Token) : Prop
  | unknown (missing : table.get? (String.ofList token.name) = none)
  | optionless {value : String} (known : table.get? (String.ofList token.name) = some value)
    (no_option : options value.toList = [])
  | unreadable {digits : List Char} (number : token.number? = some digits) (no_number : index? digits = none)
  | zero {digits : List Char} (number : token.number? = some digits) (zero : index? digits = some 0)
  | beyond {digits : List Char} {n : Nat} (number : token.number? = some digits)
    (index : index? digits = some n) (above : (token.optionsIn table).length < n)

theorem stuck_of_not_resolvable (h : ¬token.IsResolvable table) : token.Stuck table := by
  by_cases no_option : token.optionsIn table = []
  · unfold optionsIn at no_option
    cases known : table.get? (String.ofList token.name) with
    | none => exact .unknown known
    | some value =>
      rw [known] at no_option
      exact .optionless known no_option
  · unfold IsResolvable at h
    push Not at h
    obtain ⟨digits, number, unfit⟩ := h no_option
    cases index : index? digits with
    | none => exact .unreadable number index
    | some n =>
      by_cases zero : n = 0
      · exact .zero number (zero ▸ index)
      · exact .beyond number index (unfit n index (Nat.pos_of_ne_zero zero))

/-- A token is picked at random when its name has options and no number follows it. -/
def isRandom (table : Table) (token : Token) : Bool :=
  token.number?.isNone && !(token.optionsIn table).isEmpty

theorem isRandom_iff : token.isRandom table = true ↔ token.number? = none ∧ token.optionsIn table ≠ [] := by
  simp [isRandom]

theorem resolvable_of_isRandom (random : token.isRandom table = true) : token.IsResolvable table := by
  obtain ⟨no_number, some_option⟩ := isRandom_iff.1 random
  refine ⟨some_option, fun digits number => ?_⟩
  rw [no_number] at number
  cases number

/-- A choice is made for a token just when it is picked at random. -/
theorem chooses_pick (table : Table) (token : Token) (d : Draws) :
    Draws.Chooses (if token.isRandom table then 1 else 0) d (token.pick table d).2 := by
  by_cases random : token.isRandom table = true
  · obtain ⟨no_number, some_option⟩ := isRandom_iff.1 random
    have left : (token.pick table d).2 = (Draws.below (token.optionsIn table).length d.patience d).2 := by
      simp [pick, no_number, some_option]
    rw [if_pos random, left]
    exact .choose (List.length_pos_iff.2 some_option) (.none _)
  · have left : (token.pick table d).2 = d := by
      by_cases no_option : token.optionsIn table = []
      · simp [pick, no_option]
      · cases number : token.number? with
        | none => exact absurd (isRandom_iff.2 ⟨number, no_option⟩) random
        | some digits => rw [pick_of_number no_option number]
    rw [if_neg random, left]
    exact .none d

/-- What is picked at random takes the sign of its token out of the text. -/
theorem weigh_pick_le (weightless : table.IsWeightless (only '$')) (read : ofText? text = some token) (d : Draws) :
    weigh (only '$') (token.pick table d).1 + (if token.isRandom table then 1 else 0) ≤
      weigh (only '$') token.chars := by
  by_cases resolvable : token.IsResolvable table
  · have heavy : 0 < only '$' '$' := by decide
    have sign : 0 < weigh (only '$') token.chars :=
      Nat.lt_of_lt_of_le heavy (Text.weight_le_weigh (sign_mem_chars read))
    rw [weigh_pick_of_resolvable weightless resolvable]
    split <;> omega
  · have fixed : token.isRandom table ≠ true := fun random => resolvable (resolvable_of_isRandom random)
    rw [pick_of_not_resolvable resolvable, if_neg fixed, Nat.add_zero]

end Token

section Picks

variable {table : Table} {text out : List Char} {d d' : Draws}

/-- The tokens that a pass comes to behind the first `skip` characters, from left to right. -/
def tokensFrom : (skip : Nat) → List Char → List Token
  | _, [] => []
  | skip + 1, _ :: rest => tokensFrom skip rest
  | 0, c :: rest =>
    match Token.ofText? (c :: rest) with
    | none => tokensFrom 0 rest
    | some token => token :: tokensFrom (token.chars.length - 1) rest

theorem tokensFrom_of_none {c : Char} {rest : List Char} (read : Token.ofText? (c :: rest) = none) :
    tokensFrom 0 (c :: rest) = tokensFrom 0 rest := by
  simp only [tokensFrom, read]

theorem tokensFrom_of_token {c : Char} {rest : List Char} {token : Token}
    (read : Token.ofText? (c :: rest) = some token) :
    tokensFrom 0 (c :: rest) = token :: tokensFrom (token.chars.length - 1) rest := by
  simp only [tokensFrom, read]

/-- How many random picks a pass over a text makes. -/
def randomPicks (table : Table) (text : List Char) : Nat := (tokensFrom 0 text).countP (Token.isRandom table)

/-- Of the tokens that a pass comes to, those picked at random use up draws. -/
theorem chooses_expandFrom (table : Table) (skip : Nat) (text : List Char) (d : Draws) :
    Draws.Chooses ((tokensFrom skip text).countP (Token.isRandom table)) d (expandFrom table skip text d).2 := by
  induction text generalizing skip d with
  | nil => cases skip <;> exact .none d
  | cons c text ih =>
    cases skip with
    | succ skip => exact ih skip d
    | zero =>
      cases read : Token.ofText? (c :: text) with
      | none =>
        rw [tokensFrom_of_none read, expandFrom_of_none read]
        exact ih 0 d
      | some token =>
        rw [tokensFrom_of_token read, expandFrom_of_token read, List.countP_cons, Nat.add_comm]
        exact (Token.chooses_pick table token d).append (ih _ _)

/-- A pass takes a sign out of the text for every random pick. -/
theorem weigh_expandFrom_le (weightless : table.IsWeightless (only '$')) (skip : Nat) (text : List Char) (d : Draws) :
    weigh (only '$') (expandFrom table skip text d).1 + (tokensFrom skip text).countP (Token.isRandom table) ≤
      weigh (only '$') (text.drop skip) := by
  induction text generalizing skip d with
  | nil => cases skip <;> exact Nat.le_refl 0
  | cons c text ih =>
    cases skip with
    | succ skip => exact ih skip d
    | zero =>
      cases read : Token.ofText? (c :: text) with
      | none =>
        have behind := ih 0 d
        rw [tokensFrom_of_none read, expandFrom_of_none read, List.drop_zero, Text.weigh_cons, Text.weigh_cons,
          Nat.add_assoc]
        exact Nat.add_le_add_left behind _
      | some token =>
        have here := Token.weigh_pick_le weightless read d
        have behind := ih (token.chars.length - 1) (token.pick table d).2
        rw [tokensFrom_of_token read, expandFrom_of_token read, List.drop_zero, Token.eq_chars_append read,
          Text.weigh_append, Text.weigh_append, List.countP_cons]
        omega

/-- How many random picks passes over several texts make. -/
def allRandomPicks (table : Table) (texts : List (List Char)) : Nat := (texts.map (randomPicks table)).sum

theorem chooses_of_settles {changed : List (List Char)} (settles : Settles (expandFrom table 0) text d changed out d') :
    Draws.Chooses (allRandomPicks table (changed ++ [out])) d d' := by
  induction settles with
  | @stable text d d' stays =>
    have chooses := chooses_expandFrom table 0 text d
    rw [stays] at chooses
    simpa [allRandomPicks, randomPicks] using chooses
  | @change text next out d e d' changed changes _ _ ih =>
    have chooses := chooses_expandFrom table 0 text d
    rw [changes] at chooses
    exact chooses.append ih

/-- Over plain options no more random picks are made than the text has signs. -/
theorem allRandomPicks_le (weightless : table.IsWeightless (only '$')) {changed : List (List Char)}
    (settles : Settles (expandFrom table 0) text d changed out d') :
    allRandomPicks table (changed ++ [out]) ≤ weigh (only '$') text := by
  induction settles with
  | @stable text d d' stays =>
    have pass := weigh_expandFrom_le weightless 0 text d
    rw [stays] at pass
    simp only [List.drop_zero] at pass
    have none : randomPicks table text = 0 := by
      unfold randomPicks
      omega
    simp [allRandomPicks, none]
  | @change text next out d e d' changed changes _ _ ih =>
    have pass := weigh_expandFrom_le weightless 0 text d
    rw [changes] at pass
    simp only [List.drop_zero] at pass
    calc allRandomPicks table (text :: changed ++ [out])
      _ = randomPicks table text + allRandomPicks table (changed ++ [out]) := by simp [allRandomPicks]
      _ ≤ randomPicks table text + weigh (only '$') next := Nat.add_le_add_left ih _
      _ ≤ weigh (only '$') text := by
        unfold randomPicks
        omega

end Picks

/-- The expansion of a text is complete: the passes change the texts `changed`, and `out` and
`d'` are what comes of the text and of the draws. -/
structure Expands (table : Table) (text : List Char) (d : Draws) (changed : List (List Char)) (out : List Char)
    (d' : Draws) : Prop where
  passes : Settles (expandFrom table 0) text d changed out d'
  few_passes : changed.length ≤ text.count '$'
  uncapped : ∀ fuel > changed.length, (expand (.ofCap fuel none) table text).run d = (.ok out, d')
  capped : ∀ cap > text.count '$', ∀ fuel, (expand (.ofCap fuel (some cap)) table text).run d = (.ok out, d')
  /-- The pass that gives the last text back counts as well. -/
  picks : Draws.Chooses (allRandomPicks table (changed ++ [out])) d d'
  few_picks : allRandomPicks table (changed ++ [out]) ≤ text.count '$'
  stuck : ∀ token : Token, token.StandsIn out → token.Stuck table

/-- **Expansion over plain options is complete.** Whatever is drawn, at most as many passes
change the text as it has signs, with at most as many random picks, and every token in
what comes out names nothing, has no options or has a number that fits none. -/
theorem expansion_completes {table : Table} (plain : ∀ entry ∈ table.entries, '$' ∉ entry.2.toList)
    (text : List Char) (d : Draws) : ∃ changed out d', Expands table text d changed out d' := by
  have weightless : table.IsWeightless (only '$') := by
    intro entry mem c here
    have ne : c ≠ '$' := fun same => plain entry mem (same ▸ here)
    simp [only, ne]
  let limit := Limit.ofCap (text.count '$' + 1) none
  have enough : weigh (only '$') text < limit.passes := by
    rw [Text.weigh_only]
    exact Nat.lt_succ_self _
  obtain ⟨out, d', ends, -, no_token⟩ := expand_of_weightless weightless (by decide) enough d
  obtain ⟨changed, few, settles⟩ := run_expand_eq_ok_iff.1 ends
  have few : changed.length < text.count '$' + 1 := few
  refine ⟨changed, out, d', settles, Nat.le_of_lt_succ few, ?_, ?_, chooses_of_settles settles, ?_, ?_⟩
  · intro fuel more
    exact run_expand_eq_ok_iff.2 ⟨changed, more, settles⟩
  · intro cap above fuel
    have within : changed.length < max 1 cap := by omega
    exact run_expand_eq_ok_iff.2 ⟨changed, within, settles⟩
  · rw [← Text.weigh_only]
    exact allRandomPicks_le weightless settles
  · intro token standing
    exact Token.stuck_of_not_resolvable (no_token token standing)

/-- A wildcard whose only option completes the name of another. -/
def completing : Table := .ofList [("$ab", "x|y"), ("$c", "b")]

/-- The first token names nothing until the second is expanded behind it; the last has a
number beyond the options. -/
theorem expansion_completes_completing :
    (∀ entry ∈ completing.entries, '$' ∉ entry.2.toList) ∧
      ∃ changed d', Expands completing "$a$c$ab[7]".toList (.ofSource fun _ => 0) changed "x$ab[7]".toList d' := by
  have plain : ∀ entry ∈ completing.entries, '$' ∉ entry.2.toList := by decide +kernel
  obtain ⟨changed, out, d', expands⟩ := expansion_completes plain "$a$c$ab[7]".toList (.ofSource fun _ => 0)
  have computed : ((expand (.ofCap 0 (some 4)) completing "$a$c$ab[7]".toList).run (.ofSource fun _ => 0)).1 =
      .ok "x$ab[7]".toList := by decide +kernel
  have above : 4 > "$a$c$ab[7]".toList.count '$' := by decide +kernel
  rw [expands.capped 4 above 0] at computed
  obtain rfl := Except.ok.inj computed
  exact ⟨plain, changed, d', expands⟩

end Shortcut

end CanvasScript
