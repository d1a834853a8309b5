import CanvasScript.Proofs.Json.Grammar
import CanvasScript.Proofs.Outcome

/-!
# Words and strings are read as they are written

What a reader takes is what the grammar says, and what the grammar says it takes, wherever it
stands in a text (`Gives`). Here this is told of blanks, words and strings: `string_sound` and
`string_complete`.
-/

namespace CanvasScript.Json

open Outcome (bind_eq_ok_iff)

/-- A reading gives a value and leaves the rest, at some place. -/
def Gives (outcome : Except Mistake (α × Input)) (a : α) (rest : List Char) : Prop :=
  ∃ place, outcome = .ok (a, { rest, place })

/-- A reading leaves the rest, at some place. -/
def Leaves (outcome : Except Mistake Input) (rest : List Char) : Prop := ∃ place, outcome = .ok { rest, place }

/-- A reader that first gives one value goes on behind it. -/
theorem Gives.bind {x : Except Mistake (α × Input)} {f : α × Input → Except Mistake (β × Input)} {a : α} {b : β}
    {rest last : List Char} (first : Gives x a rest) (behind : ∀ place, Gives (f (a, { rest, place })) b last) :
    Gives (x >>= f) b last := by
  obtain ⟨place, rfl⟩ := first
  exact behind place

theorem Leaves.bind {x : Except Mistake Input} {f : Input → Except Mistake (β × Input)} {b : β}
    {rest last : List Char} (first : Leaves x rest) (behind : ∀ place, Gives (f { rest, place }) b last) :
    Gives (x >>= f) b last := by
  obtain ⟨place, rfl⟩ := first
  exact behind place

/-- Where a reader that only moves on is followed by the value itself. -/
theorem Leaves.map {x : Except Mistake Input} {rest : List Char} (first : Leaves x rest) (a : α) :
    Gives (do return (a, ← x)) a rest := by
  obtain ⟨place, rfl⟩ := first
  exact ⟨place, rfl⟩

section Blanks

/-- Skipping blanks takes blanks and stops at what is none. -/
theorem exists_of_skipSpaces (input : Input) :
    ∃ gap, Blank gap ∧ input.rest = gap ++ input.skipSpaces.rest ∧
      ∀ c rest, input.skipSpaces.rest = c :: rest → Input.isSpace c = false := by
  have go (place : Place) (cs : List Char) : ∃ gap, Blank gap ∧ cs = gap ++ (Input.skipSpaces.go place cs).rest ∧
      ∀ c rest, (Input.skipSpaces.go place cs).rest = c :: rest → Input.isSpace c = false := by
    induction cs generalizing place with
    | nil => exact ⟨[], blank_nil, rfl, nofun⟩
    | cons c cs ih =>
      unfold Input.skipSpaces.go
      split
      case isTrue space =>
        obtain ⟨gap, blank, same, stops⟩ := ih (place.over c)
        refine ⟨c :: gap, List.forall_mem_cons.2 ⟨space, blank⟩, congrArg (c :: ·) same, stops⟩
      case isFalse other =>
        refine ⟨[], blank_nil, rfl, ?_⟩
        rintro d rest ⟨⟩
        exact Bool.eq_false_iff.2 other
  exact go input.place input.rest

/-- Blanks before something that is none are skipped. -/
theorem skipSpaces_append {gap cs : List Char} (blank : Blank gap)
    (stops : ∀ c rest, cs = c :: rest → Input.isSpace c = false) (place : Place) :
    ∃ after, Input.skipSpaces { rest := gap ++ cs, place } = { rest := cs, place := after } := by
  have go (gap : List Char) (blank : Blank gap) (place : Place) :
      ∃ after, Input.skipSpaces.go place (gap ++ cs) = { rest := cs, place := after } := by
    induction gap generalizing place with
    | nil =>
      cases cs with
      | nil => exact ⟨place, rfl⟩
      | cons c rest =>
        refine ⟨place, ?_⟩
        rw [List.nil_append, Input.skipSpaces.go, stops c rest rfl]
        rfl
    | cons c gap ih =>
      obtain ⟨space, blank⟩ := List.forall_mem_cons.1 blank
      rw [List.cons_append, Input.skipSpaces.go, if_pos space]
      exact ih blank _
  exact go gap blank place

/-- Blanks with nothing behind them are all skipped. -/
theorem skipSpaces_blank {gap : List Char} (blank : Blank gap) (place : Place) :
    ∃ after, Input.skipSpaces { rest := gap, place } = { rest := [], place := after } := by
  have none : ∀ (c : Char) (rest : List Char), [] = c :: rest → Input.isSpace c = false := nofun
  have skipped := skipSpaces_append blank none place
  rwa [List.append_nil] at skipped

/-- Blanks before a character that is none are skipped. -/
theorem skipSpaces_cons {gap : List Char} (blank : Blank gap) {c : Char} (space : Input.isSpace c = false)
    (rest : List Char) (place : Place) :
    ∃ after, Input.skipSpaces { rest := gap ++ c :: rest, place } = { rest := c :: rest, place := after } := by
  refine skipSpaces_append blank (fun d tail same => ?_) place
  obtain rfl := (List.cons.inj same).1
  exact space

/-- Without blanks nothing is skipped. -/
theorem skipSpaces_of_cons {c : Char} (space : Input.isSpace c = false) (rest : List Char) (place : Place) :
    Input.skipSpaces { rest := c :: rest, place } = { rest := c :: rest, place } := by
  rw [Input.skipSpaces, Input.skipSpaces.go, space]
  rfl

end Blanks

/-- A word is taken. -/
theorem word_complete (cs rest : List Char) (place : Place) : Leaves (word cs { rest := cs ++ rest, place }) rest := by
  induction cs generalizing place with
  | nil => exact ⟨place, rfl⟩
  | cons c cs ih =>
    show Leaves (if c = c then word cs _ else _) rest
    rw [if_pos rfl]
    exact ih _

theorem word_sound {cs : List Char} {input after : Input} (reads : word cs input = .ok after) :
    input.rest = cs ++ after.rest := by
  induction cs generalizing input with
  | nil =>
    cases reads
    rfl
  | cons c cs ih =>
    obtain ⟨rest, place⟩ := input
    cases rest with
    | nil => cases reads
    | cons d rest =>
      unfold word at reads
      simp only at reads
      split at reads
      case isTrue same => rw [same, List.cons_append, ← ih reads]; rfl
      case isFalse => cases reads

section Strings

variable {cs esc : List Char} {input after : Input} {place : Place} {d : Char} {n taken : Nat}

/-- Four digits and what follows them. -/
theorem hexUnit?_append {ds : List Char} (unit : IsUnit ds n) (rest : List Char) : hexUnit? (ds ++ rest) = some n := by
  obtain ⟨length, value⟩ := unit
  match ds, length with
  | [_, _, _, _], _ => exact value

/-- Only four characters can be four digits. -/
theorem exists_of_hexUnit? (value : hexUnit? cs = some n) : ∃ ds rest, cs = ds ++ rest ∧ IsUnit ds n := by
  match cs with
  | a :: b :: c :: d :: rest => exact ⟨[a, b, c, d], rest, rfl, rfl, value⟩
  | [] | [_] | [_, _] | [_, _, _] => cases value

theorem hexUnit_complete {ds : List Char} (unit : IsUnit ds n) (rest : List Char) (place : Place) :
    Gives (hexUnit { rest := ds ++ rest, place }) n rest := by
  have digits := hexUnit?_append unit rest
  obtain ⟨length, -⟩ := unit
  have bytes : ¬bytesOfFour (ds ++ rest) < 4 := by
    match ds, length with
    | [a, b, c, d], _ =>
      have := a.utf8Size_pos
      have := b.utf8Size_pos
      have := c.utf8Size_pos
      have := d.utf8Size_pos
      show ¬0 + a.utf8Size + b.utf8Size + c.utf8Size + d.utf8Size < 4
      omega
  refine ⟨{ place with column := place.column + 4 }, ?_⟩
  rw [hexUnit, if_neg bytes]
  simp only [digits]
  rw [Input.drop]
  simp only [List.drop_left' length]

theorem hexUnit_sound (reads : hexUnit input = .ok (n, after)) :
    ∃ ds, input.rest = ds ++ after.rest ∧ IsUnit ds n := by
  unfold hexUnit at reads
  split at reads
  · cases reads
  · split at reads
    case h_1 m value =>
      cases reads
      obtain ⟨ds, rest, same, unit⟩ := exists_of_hexUnit? value
      refine ⟨ds, ?_, unit⟩
      show input.rest = ds ++ input.rest.drop 4
      rw [same, List.drop_left' unit.1]
    case h_2 => cases reads

theorem halfMark_sound {c : Char} (reads : halfMark c input = .ok after) : input.rest = c :: after.rest := by
  obtain ⟨cs, place⟩ := input
  cases cs with
  | nil => cases reads
  | cons d cs =>
    unfold halfMark at reads
    simp only at reads
    split at reads
    case isTrue same =>
      cases reads
      rw [same]
      rfl
    case isFalse => cases reads

theorem codeEscape_sound (reads : codeEscape input = .ok (d, taken)) :
    ∃ esc rest, input.rest = esc ++ rest ∧ esc.length + 1 = taken ∧ EscapeText ('u' :: esc) d := by
  unfold codeEscape at reads
  obtain ⟨⟨high, second⟩, unit, judged⟩ := bind_eq_ok_iff.1 reads
  obtain ⟨ds, same, isUnit⟩ := hexUnit_sound unit
  simp only at judged
  split at judged
  case isTrue => cases judged
  case isFalse notLow =>
    split at judged
    case isTrue isHigh =>
      obtain ⟨slash, marked, behind⟩ := bind_eq_ok_iff.1 judged
      obtain ⟨letter, marked', behind⟩ := bind_eq_ok_iff.1 behind
      obtain ⟨⟨low, last⟩, unit', behind⟩ := bind_eq_ok_iff.1 behind
      simp only at behind
      split at behind
      case isTrue isLow =>
        obtain ⟨rfl, rfl⟩ := Prod.mk.inj (Except.ok.inj behind)
        obtain ⟨es, same', isUnit'⟩ := hexUnit_sound unit'
        refine ⟨ds ++ '\\' :: 'u' :: es, last.rest, ?_, ?_, .halves isUnit isHigh isUnit' isLow⟩
        · rw [same, halfMark_sound marked, halfMark_sound marked', same']
          simp
        · rw [List.length_append, isUnit.1, List.length_cons, List.length_cons, isUnit'.1]
      case isFalse => cases behind
    case isFalse notHigh =>
      cases judged
      exact ⟨ds, second.rest, same, by rw [isUnit.1],
        .code isUnit (Bool.eq_false_iff.2 notLow) (Bool.eq_false_iff.2 notHigh)⟩

theorem escape_sound (reads : escape input = .ok (d, taken)) :
    ∃ esc rest, input.rest = esc ++ rest ∧ esc.length = taken ∧ EscapeText esc d := by
  obtain ⟨cs, place⟩ := input
  cases cs with
  | nil => cases reads
  | cons c cs =>
    unfold escape at reads
    simp only at reads
    split at reads
    case isTrue letter =>
      obtain ⟨esc, rest, same, length, text⟩ := codeEscape_sound reads
      exact ⟨'u' :: esc, rest, by rw [letter]; exact congrArg ('u' :: ·) same, length, text⟩
    case isFalse =>
      split at reads
      case h_1 known =>
        cases reads
        exact ⟨[c], cs, rfl, rfl, .plain known⟩
      case h_2 => cases reads

theorem escape_complete (text : EscapeText esc d) (rest : List Char) (place : Place) :
    escape { rest := esc ++ rest, place } = .ok (d, esc.length) := by
  cases text with
  | @plain c d known =>
    have other : c ≠ 'u' := by
      rintro rfl
      cases known
    show (if c = 'u' then _ else _) = _
    rw [if_neg other]
    simp only [known]
    rfl
  | @code ds n unit notLow notHigh =>
    obtain ⟨after, reads⟩ := hexUnit_complete unit rest (place.over 'u')
    show codeEscape { rest := ds ++ rest, place := place.over 'u' } = _
    rw [codeEscape, reads]
    show (if isLowHalf n then _ else if isHighHalf n then _ else _) = _
    rw [notLow, notHigh, List.length_cons, unit.1]
    rfl
  | @halves ds es high low unit isHigh unit' isLow =>
    have notLow : isLowHalf high = false := by
      unfold isHighHalf at isHigh
      unfold isLowHalf
      simp only [Bool.and_eq_true, decide_eq_true_eq] at isHigh
      simp only [Bool.and_eq_false_imp, decide_eq_true_eq, decide_eq_false_iff_not]
      omega
    obtain ⟨after, reads⟩ := hexUnit_complete unit ('\\' :: 'u' :: es ++ rest) (place.over 'u')
    obtain ⟨last, reads'⟩ := hexUnit_complete unit' rest ((after.over '\\').over 'u')
    show codeEscape { rest := (ds ++ '\\' :: 'u' :: es) ++ rest, place := place.over 'u' } = _
    rw [List.append_assoc, codeEscape, reads]
    show (if isLowHalf high then _ else if isHighHalf high then _ else _) = _
    rw [notLow, isHigh, if_neg Bool.false_ne_true, if_pos rfl]
    show (hexUnit { rest := es ++ rest, place := (after.over '\\').over 'u' } >>= _) = _
    rw [reads']
    show (if isLowHalf low then _ else _) = _
    rw [isLow, if_pos rfl, List.length_cons, List.length_append, List.length_cons, List.length_cons, unit.1, unit'.1]
    rfl

/-- Characters that are part of an escape are passed over. -/
theorem stringFrom_skip (esc cs read : List Char) (place : Place) :
    ∃ after, stringFrom esc.length read place (esc ++ cs) = stringFrom 0 read after cs := by
  induction esc generalizing place with
  | nil => exact ⟨place, rfl⟩
  | cons c esc ih => exact ih (place.over c)

theorem stringFrom_complete {ds : List Char} (text : StringText cs ds) (read rest : List Char) (place : Place) :
    Gives (stringFrom 0 read place (cs ++ '"' :: rest)) (String.ofList (read.reverse ++ ds)) rest := by
  induction text generalizing read place with
  | nil =>
    rw [List.append_nil]
    exact ⟨_, rfl⟩
  | @plain c cs ds notQuote notBackslash notControl behind ih =>
    have here := ih (c :: read) (place.over c)
    rw [List.cons_append, stringFrom, if_neg notQuote, if_neg notBackslash, notControl]
    rw [List.reverse_cons, List.append_assoc] at here
    exact here
  | @escape esc cs ds d first behind ih =>
    obtain ⟨after, skip⟩ := stringFrom_skip esc (cs ++ '"' :: rest) (d :: read) (place.over '\\')
    have here := ih (d :: read) after
    rw [List.reverse_cons, List.append_assoc, ← skip] at here
    rw [List.cons_append, List.append_assoc, stringFrom, if_neg (by decide), if_pos rfl, escape_complete first]
    exact here

theorem stringFrom_sound {s : String} {read : List Char}
    (reads : stringFrom 0 read place cs = .ok (s, after)) :
    ∃ body ds, cs = body ++ '"' :: after.rest ∧ StringText body ds ∧ s = String.ofList (read.reverse ++ ds) := by
  generalize size : cs.length = count
  induction count using Nat.strongRecOn generalizing cs place read with
  | ind count ih =>
    cases cs with
    | nil => cases reads
    | cons c cs =>
      rw [stringFrom] at reads
      split at reads
      case isTrue quote =>
        cases reads
        exact ⟨[], [], by rw [quote]; rfl, .nil, by rw [List.append_nil]⟩
      case isFalse notQuote =>
        split at reads
        case isTrue backslash =>
          split at reads
          case h_1 d taken escaped =>
            obtain ⟨esc, behind, rfl, rfl, text⟩ := escape_sound escaped
            obtain ⟨place', skip⟩ := stringFrom_skip esc behind (d :: read) (place.over c)
            rw [skip] at reads
            rw [List.length_cons, List.length_append] at size
            obtain ⟨body, ds, rfl, inside, rfl⟩ := ih behind.length (by omega) reads rfl
            refine ⟨'\\' :: (esc ++ body), d :: ds, ?_, .escape text inside, ?_⟩
            · rw [backslash, List.cons_append, List.append_assoc]
            · rw [List.reverse_cons, List.append_assoc]
              rfl
          case h_2 => cases reads
        case isFalse notBackslash =>
          split at reads
          case isTrue => cases reads
          case isFalse notControl =>
            obtain ⟨body, ds, rfl, inside, rfl⟩ := ih cs.length (by rw [← size, List.length_cons]; omega) reads rfl
            refine ⟨c :: body, c :: ds, rfl, .plain notQuote notBackslash (Bool.eq_false_iff.2 notControl) inside, ?_⟩
            rw [List.reverse_cons, List.append_assoc]
            rfl

/-- **Strings are read as they are written**, behind the quote that opens them. -/
theorem string_complete {ds : List Char} (text : StringText cs ds) (rest : List Char) (place : Place) :
    Gives (string { rest := cs ++ '"' :: rest, place }) (String.ofList ds) rest :=
  stringFrom_complete text [] rest place

/-- What is read as a string is written as one. -/
theorem string_sound {s : String} (reads : string input = .ok (s, after)) :
    ∃ body ds, input.rest = body ++ '"' :: after.rest ∧ StringText body ds ∧ s = String.ofList ds :=
  stringFrom_sound reads

end Strings

end CanvasScript.Json
