import CanvasScript.Proofs.Json.Entries

/-!
# Blanks do not matter

A text without its blanks spells the value that it spells with them; those inside strings stay
(`withoutBlanks`). So texts that differ in nothing but blanks have the same entries
(`readEntries_withoutBlanks`).
-/

namespace CanvasScript.Json

open Text (isAsciiDigit)

/-- Where a character stands. -/
inductive Zone where
  | outside
  /-- Inside a string. -/
  | quoted
  /-- Behind a backslash in a string. -/
  | escaped

/-- The characters without the blanks outside strings. -/
def barred : Zone → List Char → List Char
  | _, [] => []
  | .outside, c :: cs =>
    if Input.isSpace c then barred .outside cs else c :: barred (if c = '"' then .quoted else .outside) cs
  | .quoted, c :: cs => c :: barred (if c = '"' then .outside else if c = '\\' then .escaped else .quoted) cs
  | .escaped, c :: cs => c :: barred .quoted cs

/-- A text without the blanks outside its strings. -/
def withoutBlanks (text : String) : String := String.ofList (barred .outside text.toList)

/-- Characters that stand for themselves, with what is left of them without blanks: both begin
and end outside strings. -/
def Bares (cs left : List Char) : Prop := ∀ rest, barred .outside (cs ++ rest) = left ++ barred .outside rest

section Characters

variable {cs ds left left' : List Char}

theorem Bares.append (first : Bares cs left) (second : Bares ds left') : Bares (cs ++ ds) (left ++ left') := by
  intro rest
  rw [List.append_assoc, first, second, List.append_assoc]

theorem bares_blank (blank : Blank cs) : Bares cs [] := by
  intro rest
  induction cs with
  | nil => rfl
  | cons c cs ih =>
    obtain ⟨space, blank⟩ := List.forall_mem_cons.1 blank
    rw [List.cons_append, barred, if_pos space]
    exact ih blank

theorem bares_plain (plain : ∀ c ∈ cs, Input.isSpace c = false ∧ c ≠ '"') : Bares cs cs := by
  intro rest
  induction cs with
  | nil => rfl
  | cons c cs ih =>
    obtain ⟨⟨space, notQuote⟩, plain⟩ := List.forall_mem_cons.1 plain
    rw [List.cons_append, barred, space, if_neg Bool.false_ne_true, if_neg notQuote, ih plain, List.cons_append]

theorem bares_word (plain : (cs.all fun c => decide (Input.isSpace c = false ∧ c ≠ '"')) = true) : Bares cs cs :=
  bares_plain fun c mem => of_decide_eq_true (List.all_eq_true.1 plain c mem)

/-- Digits of a code do not end a string. -/
theorem IsUnit.plain {n : Nat} (unit : IsUnit cs n) : ∀ c ∈ cs, c ≠ '"' ∧ c ≠ '\\' := by
  have digit {c : Char} (value : (hexValue? c).isSome = true) : c ≠ '"' ∧ c ≠ '\\' := by
    constructor <;> rintro rfl <;> cases value
  obtain ⟨length, value⟩ := unit
  match cs, length with
  | [a, b, c, d], _ =>
    simp only [hexUnit?, Option.bind_eq_bind, Option.bind_eq_some_iff] at value
    obtain ⟨va, ha, vb, hb, vc, hc, vd, hd, -⟩ := value
    intro e mem
    simp only [List.mem_cons, List.not_mem_nil, or_false] at mem
    rcases mem with rfl | rfl | rfl | rfl
    · exact digit (Option.isSome_iff_exists.2 ⟨va, ha⟩)
    · exact digit (Option.isSome_iff_exists.2 ⟨vb, hb⟩)
    · exact digit (Option.isSome_iff_exists.2 ⟨vc, hc⟩)
    · exact digit (Option.isSome_iff_exists.2 ⟨vd, hd⟩)

theorem barred_quoted_plain (plain : ∀ c ∈ cs, c ≠ '"' ∧ c ≠ '\\') (rest : List Char) :
    barred .quoted (cs ++ rest) = cs ++ barred .quoted rest := by
  induction cs with
  | nil => rfl
  | cons c cs ih =>
    obtain ⟨⟨notQuote, notBackslash⟩, plain⟩ := List.forall_mem_cons.1 plain
    rw [List.cons_append, barred, if_neg notQuote, if_neg notBackslash, ih plain, List.cons_append]

theorem barred_escaped {d : Char} (text : EscapeText cs d) (rest : List Char) :
    barred .escaped (cs ++ rest) = cs ++ barred .quoted rest := by
  cases text with
  | plain _ => rfl
  | code unit _ _ =>
    rw [List.cons_append, barred, barred_quoted_plain unit.plain, List.cons_append]
  | @halves ds es _ _ unit _ unit' _ =>
    have marks : barred .quoted ('\\' :: 'u' :: es ++ rest) = '\\' :: 'u' :: barred .quoted (es ++ rest) := rfl
    rw [List.cons_append, barred, List.append_assoc, barred_quoted_plain unit.plain, marks,
      barred_quoted_plain unit'.plain]
    simp

/-- Strings are kept as they are. -/
theorem StringText.bares (text : StringText cs ds) : Bares ('"' :: (cs ++ ['"'])) ('"' :: (cs ++ ['"'])) := by
  have inside (rest : List Char) : barred .quoted (cs ++ '"' :: rest) = cs ++ '"' :: barred .outside rest := by
    induction text with
    | nil => rfl
    | plain notQuote notBackslash _ _ ih =>
      rw [List.cons_append, barred, if_neg notQuote, if_neg notBackslash, ih, List.cons_append]
    | @escape esc cs ds d first _ ih =>
      have mark : barred .quoted ('\\' :: (esc ++ cs) ++ '"' :: rest) =
          '\\' :: barred .escaped (esc ++ (cs ++ '"' :: rest)) := by
        rw [← List.append_assoc]
        rfl
      rw [mark, barred_escaped first, ih]
      simp
  intro rest
  have opened : barred .outside ('"' :: (cs ++ '"' :: rest)) = '"' :: barred .quoted (cs ++ '"' :: rest) := rfl
  rw [List.cons_append, List.append_assoc, List.singleton_append, opened, inside]
  simp

/-- Numbers are kept as they are. -/
theorem NumberText.bares {v : Value} (text : NumberText cs v) : Bares cs cs := by
  have digits {ds : List Char} (digits : Digits ds) : ∀ c ∈ ds, Input.isSpace c = false ∧ c ≠ '"' := fun c mem =>
    forall_digit (P := fun c => Input.isSpace c = false ∧ c ≠ '"') (by decide) (digits c mem)
  cases text with
  | @parts negative whole fraction exponent _ _ _ isWhole isFraction isExponent _ =>
    refine (bares_plain ?_).append ((bares_plain ?_).append ((bares_plain ?_).append (bares_plain ?_)))
    · cases negative
      · nofun
      · exact List.forall_mem_singleton.2 (by decide)
    · cases isWhole with
      | zero => exact List.forall_mem_singleton.2 (by decide)
      | digits digit _ behind => exact digits (List.forall_mem_cons.2 ⟨digit, behind⟩)
    · cases isFraction with
      | none => nofun
      | some behind _ => exact List.forall_mem_cons.2 ⟨by decide, digits behind⟩
    · cases isExponent with
      | none => nofun
      | some letter signed behind _ =>
        refine List.forall_mem_cons.2 ⟨?_, List.forall_mem_append.2 ⟨?_, digits behind⟩⟩
        · rcases letter with rfl | rfl <;> decide
        · cases signed with
          | none => nofun
          | plus => exact List.forall_mem_singleton.2 (by decide)
          | minus => exact List.forall_mem_singleton.2 (by decide)

end Characters

section Values

/-- What is left of an element without blanks is an element. -/
def KeepsBare (Text : List Char → α → Prop) : Prop := ∀ ⦃cs a⦄, Text cs a → ∃ left, Bares cs left ∧ Text left a

variable {α : Type} {Element : List Char → α → Prop}

theorem Lead.bares {first : Bool} {lead : List Char} (leads : Lead first lead) :
    ∃ left, Bares lead left ∧ Lead first left := by
  cases first with
  | true => exact ⟨[], bares_blank leads, blank_nil⟩
  | false =>
    obtain ⟨before, after, blank, blank', rfl⟩ := leads
    have comma : Bares [','] [','] := bares_word (by decide)
    exact ⟨[] ++ ([','] ++ []), (bares_blank blank).append (comma.append (bares_blank blank')),
      [], [], blank_nil, blank_nil, rfl⟩

theorem ItemsText.keepsBare (keeps : KeepsBare Element) (first : Bool) :
    KeepsBare (fun cs (as : List α) => ItemsText Element first cs as) := by
  intro cs as items
  induction items with
  | done blank => exact ⟨[], bares_blank blank, .done blank_nil⟩
  | more leads element behind ih =>
    obtain ⟨left, bare, leads'⟩ := leads.bares
    obtain ⟨core, bare', element'⟩ := keeps element
    obtain ⟨rest, bare'', behind'⟩ := ih
    exact ⟨left ++ (core ++ rest), bare.append (bare'.append bare''), .more leads' element' behind'⟩

theorem FieldText.keepsBare (keeps : KeepsBare Element) : KeepsBare (FieldText Element) := by
  intro cs pair text
  cases text with
  | @pair key keyMeant gap gap' core a isKey blank blank' element =>
    obtain ⟨left, bare, element'⟩ := keeps element
    have colon : Bares [':'] [':'] := bares_word (by decide)
    have whole := isKey.bares.append ((bares_blank blank).append (colon.append ((bares_blank blank').append bare)))
    refine ⟨'"' :: (key ++ '"' :: ([] ++ ':' :: ([] ++ left))), ?_, .pair isKey blank_nil blank_nil element'⟩
    simpa using whole

theorem ValueText.keepsBare {Container : List Char → Value → Prop} (keeps : KeepsBare Container) :
    KeepsBare (ValueText Container) := by
  intro cs v text
  cases text with
  | null => exact ⟨_, bares_word (by decide), .null⟩
  | bool b => exact ⟨_, bares_word (by cases b <;> decide), .bool b⟩
  | string inside => exact ⟨_, inside.bares, .string inside⟩
  | number isNumber => exact ⟨_, isNumber.bares, .number isNumber⟩
  | container isContainer =>
    obtain ⟨left, bare, isContainer'⟩ := keeps isContainer
    exact ⟨left, bare, .container isContainer'⟩

theorem ContainerText.keepsBare {Element : List Char → Value → Prop} (keeps : KeepsBare Element) :
    KeepsBare (ContainerText Element) := by
  have bracket {c : Char} (space : Input.isSpace c = false) (notQuote : c ≠ '"') : Bares [c] [c] :=
    bares_plain (List.forall_mem_singleton.2 ⟨space, notQuote⟩)
  intro cs v text
  cases text with
  | list inside =>
    obtain ⟨left, bare, inside'⟩ := ItemsText.keepsBare keeps true inside
    exact ⟨_, (bracket (by decide) (by decide)).append (bare.append (bracket (by decide) (by decide))), .list inside'⟩
  | object inside =>
    obtain ⟨left, bare, inside'⟩ := ItemsText.keepsBare (FieldText.keepsBare keeps) true inside
    exact ⟨_, (bracket (by decide) (by decide)).append (bare.append (bracket (by decide) (by decide))), .object inside'⟩

theorem Spells.keepsBare (depth : Nat) : KeepsBare (Spells depth) := by
  induction depth with
  | zero => exact ValueText.keepsBare fun _ _ none => none.elim
  | succ depth ih => exact ValueText.keepsBare (ContainerText.keepsBare ih)

end Values

/-- A text without its blanks spells what it spells with them. -/
theorem asWritten_withoutBlanks {text : String} {v : Value} (written : asWritten text = .ok v) :
    asWritten (withoutBlanks text) = .ok v := by
  obtain ⟨gap, core, gap', blank, blank', split, spells⟩ := asWritten_eq_ok_iff.1 written
  obtain ⟨left, bare, spells'⟩ := Spells.keepsBare nestingLimit spells
  have whole := ((bares_blank blank).append (bare.append (bares_blank blank'))) []
  refine asWritten_eq_ok_iff.2 ⟨[], left, [], blank_nil, blank_nil, ?_, spells'⟩
  rw [withoutBlanks, String.toList_ofList, split]
  simpa [barred] using whole

/-- **Blanks do not matter**: without them a text has the same entries. -/
theorem readEntries_withoutBlanks {text : String} {xs : List Value} (read : readEntries text = .ok xs) :
    readEntries (withoutBlanks text) = .ok xs := by
  obtain ⟨ws, written, same⟩ := readEntries_eq_ok_iff.1 read
  exact readEntries_eq_ok_iff.2 ⟨ws, asWritten_withoutBlanks written, same⟩

end CanvasScript.Json
