import CanvasScript.Proofs.Decimal.Digits
import CanvasScript.Proofs.Shortcut.Expansion

/-!
# Options chosen by number

A text lists options when it is made of them, with blanks around each, and of blank segments,
with bars between them (`Lists`). Bars cut a text in two whose options are those of its parts, one
after the other (`options_append_bar`), so that a listing has the options it lists. A token
between texts without signs is all that a pass over them expands (`expandFrom_token`). So a token
with the number of an option becomes that option, any other number leaves the text as it is, and
nothing is drawn (`numbered_selects`).
-/

namespace CanvasScript.Shortcut

open Text (isBlank isDecimalDigit isAsciiDigit trim)

section Listings

/-- A text that is not empty, has no bar in it and no blank at either end. -/
structure IsOption (text : List Char) : Prop where
  nonempty : text ≠ []
  no_bar : '|' ∉ text
  first : ∀ c ∈ text.head?, isBlank c = false
  last : ∀ c ∈ text.getLast?, isBlank c = false

/-- Both ends are looked at one by one, so that it need not be asked of every character. -/
instance (text : List Char) : Decidable (IsOption text) :=
  have parts : (text ≠ [] ∧ '|' ∉ text ∧ (text.head?.all fun c => !isBlank c) = true ∧
      (text.getLast?.all fun c => !isBlank c) = true) ↔ IsOption text := by
    constructor
    · rintro ⟨nonempty, no_bar, first, last⟩
      exact ⟨nonempty, no_bar, by simpa [Option.all_eq_true] using first, by simpa [Option.all_eq_true] using last⟩
    · rintro ⟨nonempty, no_bar, first, last⟩
      exact ⟨nonempty, no_bar, by simpa [Option.all_eq_true] using first, by simpa [Option.all_eq_true] using last⟩
  decidable_of_iff _ parts

/-- A text that lists options in order: a segment is blank or has an option with blanks around
it, and there are bars between segments. -/
inductive Lists : List (List Char) → List Char → Prop
  | blank {segment : List Char} (blank : ∀ c ∈ segment, isBlank c = true) : Lists [] segment
  | option {left option right : List Char} (blank_left : ∀ c ∈ left, isBlank c = true) (proper : IsOption option)
    (blank_right : ∀ c ∈ right, isBlank c = true) : Lists [option] (left ++ option ++ right)
  | bar {before behind : List (List Char)} {left right : List Char} (first : Lists before left)
    (second : Lists behind right) : Lists (before ++ behind) (left ++ '|' :: right)

theorem segments_ne_nil (text : List Char) : segments text ≠ [] := by
  cases text with
  | nil => simp [segments]
  | cons c text =>
    unfold segments
    split
    · simp
    · split <;> simp

/-- A text without bars is one segment. -/
theorem segments_of_no_bar {text : List Char} (no_bar : '|' ∉ text) : segments text = [text] := by
  induction text with
  | nil => rfl
  | cons c text ih =>
    obtain ⟨other, later⟩ := not_or.1 fun mem => no_bar (List.mem_cons.2 mem)
    rw [segments, if_neg (Ne.symm other), ih later]

/-- A bar ends a segment. -/
theorem segments_append_bar (left right : List Char) :
    segments (left ++ '|' :: right) = segments left ++ segments right := by
  induction left with
  | nil => simp [segments]
  | cons c left ih =>
    rw [List.cons_append, segments, segments, ih]
    by_cases bar : c = '|'
    · rw [if_pos bar, if_pos bar]
      rfl
    · obtain ⟨segment, more, cut⟩ := List.exists_cons_of_ne_nil (segments_ne_nil left)
      rw [if_neg bar, if_neg bar, cut]
      rfl

/-- The options of a text are those before a bar and those behind it. -/
theorem options_append_bar (left right : List Char) :
    options (left ++ '|' :: right) = options left ++ options right := by
  simp only [options, segments_append_bar, List.map_append, List.filter_append]

/-- Blanks before a text that starts with none are dropped, and no more. -/
theorem dropWhile_blanks {blanks text : List Char} (blank : ∀ c ∈ blanks, isBlank c = true)
    (first : ∀ c ∈ text.head?, isBlank c = false) : (blanks ++ text).dropWhile isBlank = text := by
  rw [List.dropWhile_append_of_pos blank]
  cases text with
  | nil => rfl
  | cons c text =>
    have kept : isBlank c = false := first c rfl
    rw [List.dropWhile_cons_of_neg]
    simp [kept]

theorem trim_of_blank {text : List Char} (blank : ∀ c ∈ text, isBlank c = true) : trim text = [] := by
  have nothing : (text ++ []).dropWhile isBlank = [] := dropWhile_blanks blank nofun
  rw [List.append_nil] at nothing
  rw [trim, nothing]
  rfl

/-- Trimming takes the blanks around an option away. -/
theorem trim_option {left option right : List Char} (blank_left : ∀ c ∈ left, isBlank c = true)
    (proper : IsOption option) (blank_right : ∀ c ∈ right, isBlank c = true) :
    trim (left ++ option ++ right) = option := by
  have front : (left ++ (option ++ right)).dropWhile isBlank = option ++ right := by
    apply dropWhile_blanks blank_left
    rw [List.head?_append_of_ne_nil option proper.nonempty]
    exact proper.first
  have back : (right.reverse ++ option.reverse).dropWhile isBlank = option.reverse := by
    apply dropWhile_blanks
    · intro c mem
      exact blank_right c (List.mem_reverse.1 mem)
    · rw [List.head?_reverse]
      exact proper.last
  rw [trim, List.append_assoc, front, List.reverse_append, back, List.reverse_reverse]

/-- Blanks are no bars. -/
theorem bar_not_mem_of_blank {text : List Char} (blank : ∀ c ∈ text, isBlank c = true) : '|' ∉ text := by
  intro mem
  have bar_blank := blank '|' mem
  revert bar_blank
  decide

/-- A listing has the options it lists. -/
theorem options_of_lists {list : List (List Char)} {text : List Char} (lists : Lists list text) :
    options text = list := by
  induction lists with
  | blank blank =>
    rw [options, segments_of_no_bar (bar_not_mem_of_blank blank), List.map_singleton, trim_of_blank blank]
    rfl
  | @option left option right blank_left proper blank_right =>
    have no_bar : '|' ∉ left ++ option ++ right := by
      simp [bar_not_mem_of_blank blank_left, proper.no_bar, bar_not_mem_of_blank blank_right]
    rw [options, segments_of_no_bar no_bar, List.map_singleton, trim_option blank_left proper blank_right]
    simp [proper.nonempty]
  | bar _ _ before behind => rw [options_append_bar, before, behind]

end Listings

section SingleToken

variable {table : Table} {token : Token} {before behind : List Char}

/-- What is skipped plays no part in a pass. -/
theorem expandFrom_eq_expandFrom_drop (table : Table) (skip : Nat) (text : List Char) (d : Draws) :
    expandFrom table skip text d = expandFrom table 0 (text.drop skip) d := by
  induction text generalizing skip with
  | nil => simp [expandFrom]
  | cons c text ih =>
    cases skip with
    | zero => rfl
    | succ skip =>
      rw [List.drop_succ_cons]
      exact ih skip

/-- A text without signs stays before what a pass makes of the rest. -/
theorem expandFrom_plain_append (plain : '$' ∉ before) (text : List Char) (d : Draws) :
    expandFrom table 0 (before ++ text) d =
      (before ++ (expandFrom table 0 text d).1, (expandFrom table 0 text d).2) := by
  induction before with
  | nil => rfl
  | cons c before ih =>
    obtain ⟨other, later⟩ := not_or.1 fun mem => plain (List.mem_cons.2 mem)
    rw [List.cons_append, expandFrom_of_none (Token.ofText?_of_ne (Ne.symm other) _), ih later]
    rfl

/-- A pass over a text without signs gives it back. -/
theorem expandFrom_plain {text : List Char} (plain : '$' ∉ text) (d : Draws) :
    expandFrom table 0 text d = (text, d) := by
  have alone : expandFrom table 0 (text ++ []) d = _ := expandFrom_plain_append plain [] d
  simpa [expandFrom] using alone

/-- Of a token between texts without signs a pass expands the token. -/
theorem expandFrom_token (plain_before : '$' ∉ before) (plain_behind : '$' ∉ behind)
    (read : Token.ofText? (token.chars ++ behind) = some token) (d : Draws) :
    expandFrom table 0 (before ++ (token.chars ++ behind)) d =
      (before ++ ((token.pick table d).1 ++ behind), (token.pick table d).2) := by
  obtain ⟨name, -, written, -, -⟩ := Token.ofText?_eq_some read
  have here : expandFrom table 0 (token.chars ++ behind) d =
      ((token.pick table d).1 ++ behind, (token.pick table d).2) := by
    have skipped : (name ++ behind).drop (token.chars.length - 1) = behind := by
      simp [written]
    rw [written, List.cons_append] at read ⊢
    rw [expandFrom_of_token read, expandFrom_eq_expandFrom_drop, skipped, expandFrom_plain plain_behind]
  rw [expandFrom_plain_append plain_before, here]

/-- A token that becomes a text without signs, drawing nothing, is expanded by the first of two passes. -/
theorem run_expand_token (plain_before : '$' ∉ before) (plain_behind : '$' ∉ behind)
    (read : Token.ofText? (token.chars ++ behind) = some token) {chosen : List Char} (plain : '$' ∉ chosen)
    {d : Draws} (picked : token.pick table d = (chosen, d)) {limit : Limit} (two : 2 ≤ limit.passes) :
    (expand limit table (before ++ (token.chars ++ behind))).run d = (.ok (before ++ (chosen ++ behind)), d) := by
  have first : expandFrom table 0 (before ++ (token.chars ++ behind)) d = (before ++ (chosen ++ behind), d) := by
    rw [expandFrom_token plain_before plain_behind read, picked]
  have plain_out : '$' ∉ before ++ (chosen ++ behind) := by
    simp [plain_before, plain, plain_behind]
  have different : before ++ (chosen ++ behind) ≠ before ++ (token.chars ++ behind) := by
    intro same
    rw [same] at plain_out
    have sign := Token.sign_mem_chars read
    simp [sign] at plain_out
  apply run_expand_eq_ok_iff.2
  exact ⟨[before ++ (token.chars ++ behind)], two, .change first different (.stable (expandFrom_plain plain_out d))⟩

/-- A token that stays as it is written, drawing nothing, leaves the text to the first pass. -/
theorem run_expand_verbatim (plain_before : '$' ∉ before) (plain_behind : '$' ∉ behind)
    (read : Token.ofText? (token.chars ++ behind) = some token) {d : Draws}
    (picked : token.pick table d = (token.chars, d)) {limit : Limit} (some_pass : 1 ≤ limit.passes) :
    (expand limit table (before ++ (token.chars ++ behind))).run d =
      (.ok (before ++ (token.chars ++ behind)), d) := by
  have first : expandFrom table 0 (before ++ (token.chars ++ behind)) d = _ :=
    expandFrom_token plain_before plain_behind read d
  rw [picked] at first
  apply run_expand_eq_ok_iff.2
  exact ⟨[], some_pass, .stable first⟩

end SingleToken

namespace Token

variable {name digits : List Char}

/-- Digits in brackets are read off whatever follows. -/
theorem bracketed?_append (some_digit : digits ≠ []) (decimal : ∀ c ∈ digits, isDecimalDigit c = true)
    (behind : List Char) : bracketed? ('[' :: digits ++ ']' :: behind) = some digits := by
  have taken : (digits ++ ']' :: behind).takeWhile isDecimalDigit = digits := by
    rw [List.takeWhile_append_of_pos decimal, List.takeWhile_cons_of_neg (by decide), List.append_nil]
  simp [bracketed?, taken, some_digit]

/-- A token with a number is read off whatever follows. -/
theorem ofText?_numbered (some_char : name ≠ []) (word : ∀ c ∈ name, isWord c = true) (some_digit : digits ≠ [])
    (decimal : ∀ c ∈ digits, isDecimalDigit c = true) (behind : List Char) :
    ofText? ('$' :: name ++ '[' :: digits ++ ']' :: behind) = some { name := '$' :: name, number? := some digits } := by
  have taken : (name ++ ('[' :: digits ++ ']' :: behind)).takeWhile isWord = name := by
    rw [List.takeWhile_append_of_pos word, List.cons_append, List.takeWhile_cons_of_neg (by decide), List.append_nil]
  have number := bracketed?_append some_digit decimal behind
  have whole : '$' :: name ++ '[' :: digits ++ ']' :: behind = '$' :: (name ++ ('[' :: digits ++ ']' :: behind)) := by
    simp
  rw [whole, ofText?]
  simp only [taken, List.drop_left, number]
  rw [if_neg]
  simpa using some_char

/-- ASCII digits number the option that they denote. -/
theorem numbered?_of_ascii {list : List (List Char)} {number : Nat} (ascii : ∀ c ∈ digits, isAsciiDigit c = true)
    (denotes : Nat.ofDigitChars 10 digits 0 = number) :
    numbered? list digits = if number = 0 then none else list[number - 1]? := by
  have index : index? digits = some number := by
    rw [index?, if_pos (List.all_eq_true.2 ascii), Decimal.ofDigits_eq_ofDigitChars, denotes]
  rw [numbered?, index]
  rfl

/-- A token with a number draws nothing. -/
theorem pick_numbered {table : Table} {token : Token} (number : token.number? = some digits) (d : Draws) :
    token.pick table d = ((numbered? (token.optionsIn table) digits).getD token.chars, d) := by
  by_cases no_option : token.optionsIn table = []
  · have no_number : numbered? [] digits = none := by
      simp [numbered?]
    simp [pick, no_option, no_number]
  · exact pick_of_number no_option number d

end Token

/-- **Options are chosen by number.** Where the table lists options without signs for a name, the
name with a number in brackets, counted from one, becomes the option with that number, and a
number that no option has leaves the text as it is. Nothing is drawn, and no more than two passes
are made. -/
theorem numbered_selects {table : Table} {name digits before behind : List Char} {value : String}
    {list : List (List Char)} {number : Nat} (some_char : name ≠ []) (word : ∀ c ∈ name, isWord c = true)
    (known : table.get? (String.ofList ('$' :: name)) = some value) (lists : Lists list value.toList)
    (plain : ∀ option ∈ list, '$' ∉ option) (some_digit : digits ≠ []) (ascii : ∀ c ∈ digits, isAsciiDigit c = true)
    (denotes : Nat.ofDigitChars 10 digits 0 = number) (plain_before : '$' ∉ before) (plain_behind : '$' ∉ behind)
    (d : Draws) :
    let text := before ++ ('$' :: name ++ '[' :: digits ++ [']'] ++ behind)
    let out := if inside : 1 ≤ number ∧ number ≤ list.length then before ++ (list[number - 1] ++ behind) else text
    (∀ fuel ≥ 2, (expand (.ofCap fuel none) table text).run d = (.ok out, d)) ∧
      ∀ cap ≥ 2, ∀ fuel, (expand (.ofCap fuel (some cap)) table text).run d = (.ok out, d) := by
  intro text out
  let token : Token := { name := '$' :: name, number? := some digits }
  have read : Token.ofText? (token.chars ++ behind) = some token := by
    have decimal : ∀ c ∈ digits, isDecimalDigit c = true := fun c mem => Text.isDecimalDigit_of_ascii (ascii c mem)
    have whole : token.chars ++ behind = '$' :: name ++ '[' :: digits ++ ']' :: behind := by
      simp [token, Token.chars]
    rw [whole]
    exact Token.ofText?_numbered some_char word some_digit decimal behind
  have picked : token.pick table d = ((if number = 0 then none else list[number - 1]?).getD token.chars, d) := by
    have options_eq : token.optionsIn table = list := by
      simp only [Token.optionsIn, token, known]
      exact options_of_lists lists
    rw [Token.pick_numbered rfl, options_eq, Token.numbered?_of_ascii ascii denotes]
  have enough : ∀ limit : Limit, 2 ≤ limit.passes → (expand limit table text).run d = (.ok out, d) := by
    intro limit two
    by_cases inside : 1 ≤ number ∧ number ≤ list.length
    · have bound : number - 1 < list.length := by omega
      have nonzero : number ≠ 0 := by omega
      rw [if_neg nonzero, List.getElem?_eq_getElem bound, Option.getD_some] at picked
      have plain_chosen : '$' ∉ list[number - 1] := plain _ (List.getElem_mem bound)
      have result : out = before ++ (list[number - 1] ++ behind) := dif_pos inside
      rw [result]
      exact run_expand_token plain_before plain_behind read plain_chosen picked two
    · have none_there : (if number = 0 then none else list[number - 1]?) = none := by
        split
        · rfl
        · apply List.getElem?_eq_none
          omega
      rw [none_there] at picked
      have result : out = text := dif_neg inside
      rw [result]
      exact run_expand_verbatim plain_before plain_behind read picked (Nat.le_of_succ_le two)
  constructor
  · intro fuel two
    exact enough (.ofCap fuel none) two
  · intro cap two fuel
    apply enough (.ofCap fuel (some cap))
    exact Nat.le_trans two (Nat.le_max_right 1 cap)

/-- Two options among blank segments. -/
def skies : Table := .ofList [("$sky", "| blue sky||\tdawn |")]

/-- Zeros before the number of an option do not matter; a number beyond the options stays, of
whatever length. -/
theorem numbered_selects_skies :
    Lists ["blue sky".toList, "dawn".toList] "| blue sky||\tdawn |".toList ∧
      ∀ d, (expand (.ofCap 0 (some 2)) skies "a $sky[002]!".toList).run d = (.ok "a dawn!".toList, d) ∧
        (expand (.ofCap 2 none) skies "a $sky[18446744073709551617]!".toList).run d =
          (.ok "a $sky[18446744073709551617]!".toList, d) := by
  have lists : Lists ["blue sky".toList, "dawn".toList] "| blue sky||\tdawn |".toList := by
    have blank : ∀ c ∈ [' '], isBlank c = true := List.all_eq_true.1 (by decide)
    have tab : ∀ c ∈ ['\t'], isBlank c = true := List.all_eq_true.1 (by decide)
    have first : Lists ["blue sky".toList] ([' '] ++ "blue sky".toList ++ []) := .option blank (by decide) nofun
    have second : Lists ["dawn".toList] (['\t'] ++ "dawn".toList ++ [' ']) := .option tab (by decide) blank
    have nothing : Lists [] [] := .blank nofun
    exact .bar nothing (.bar first (.bar nothing (.bar second nothing)))
  have known : skies.get? (String.ofList ('$' :: "sky".toList)) = some "| blue sky||\tdawn |" := by decide +kernel
  have word : ∀ c ∈ "sky".toList, isWord c = true := List.all_eq_true.1 (by decide)
  have second : ∀ c ∈ "002".toList, isAsciiDigit c = true := List.all_eq_true.1 (by decide)
  have beyond : ∀ c ∈ "18446744073709551617".toList, isAsciiDigit c = true := List.all_eq_true.1 (by decide)
  have before : '$' ∉ "a ".toList := by decide
  have behind : '$' ∉ "!".toList := by decide
  refine ⟨lists, fun d => ⟨?_, ?_⟩⟩
  · have selected := numbered_selects (by decide) word known lists (by decide) (by decide) second rfl before behind d
    exact selected.2 2 (by decide) 0
  · have kept := numbered_selects (by decide) word known lists (by decide) (by decide) beyond rfl before behind d
    exact kept.1 2 (by decide)

end CanvasScript.Shortcut
