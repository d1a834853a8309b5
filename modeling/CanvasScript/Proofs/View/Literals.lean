import CanvasScript.Proofs.Decimal.ReadBack
import CanvasScript.View.Answer
import Mathlib.Data.List.Basic

/-!
# Literals in prose

A literal is read back from where it is written when what follows does not go on with it
(`Literal.scan_chars_append`), and text without digits is passed over unless its end is the sign of
what follows (`Literal.scan_append`). So the numbers in prose are those that were written in it, and
they tell which rectangle is in an answer (`Prose.answerNumbers_recovered`).
-/

namespace CanvasScript

open Text (isAsciiDigit isDecimalDigit)

namespace Literal

variable {n : Literal} {c : Char} {text digits rest : List Char}

/-- A literal in digits of ASCII, with digits in front of the point. -/
structure IsDecimal (n : Literal) : Prop where
  whole_ne_nil : n.whole ≠ []
  whole : ∀ c ∈ n.whole, isAsciiDigit c = true
  fraction : ∀ c ∈ n.fraction, isAsciiDigit c = true

instance : Decidable n.IsDecimal :=
  -- Else every character there is would be tried.
  haveI (text : List Char) : Decidable (∀ c ∈ text, isAsciiDigit c = true) := List.decidableBAll _ text
  decidable_of_iff (n.whole ≠ [] ∧ (∀ c ∈ n.whole, isAsciiDigit c = true) ∧ ∀ c ∈ n.fraction, isAsciiDigit c = true)
    ⟨fun ⟨first, whole, fraction⟩ => ⟨first, whole, fraction⟩,
      fun decimal => ⟨decimal.whole_ne_nil, decimal.whole, decimal.fraction⟩⟩

/-- The number nearest to what a literal says. -/
def number (n : Literal) : Binary64 :=
  .ofUnits n.negative (Decimal.ofDigits (n.whole ++ n.fraction) * Binary64.scale) (10 ^ n.fraction.length)

/-- The value of a decimal literal is rounded once. -/
theorem value?_eq (decimal : n.IsDecimal) : n.value? = some n.number := by
  have ascii : (n.whole.all isAsciiDigit && n.fraction.all isAsciiDigit) = true := by
    simp only [Bool.and_eq_true, List.all_eq_true]
    exact ⟨decimal.whole, decimal.fraction⟩
  have none : (-(n.fraction.length : Int)).toNat = 0 := by omega
  have places : (- -(n.fraction.length : Int)).toNat = n.fraction.length := by omega
  rw [value?, if_pos ascii, Decimal.nearest_eq_ofUnits, Decimal.num, Decimal.den, none, places, Nat.pow_zero,
    Nat.mul_one]
  rfl

section Reading

/-- A text goes on with no digit of a number in front of it. -/
structure EndsNumber (text : List Char) : Prop where
  digits : text.takeWhile isDecimalDigit = []
  fraction : fractionOf text = []

/-- Digits are read as far as they go. -/
theorem takeWhile_digits_append (ascii : ∀ c ∈ digits, isAsciiDigit c = true)
    (stop : rest.takeWhile isDecimalDigit = []) : (digits ++ rest).takeWhile isDecimalDigit = digits := by
  rw [List.takeWhile_append_of_pos, stop, List.append_nil]
  intro c mem
  exact Text.isDecimalDigit_of_ascii (ascii c mem)

/-- The part of a decimal literal behind its sign is read back. -/
theorem unsigned?_append (decimal : n.IsDecimal) (ends : EndsNumber rest) :
    unsigned? n.negative (n.whole ++ ((if n.fraction.isEmpty then [] else '.' :: n.fraction) ++ rest)) = some n := by
  obtain ⟨negative, whole, fraction⟩ := n
  obtain ⟨some_digit, whole_ascii, fraction_ascii⟩ := decimal
  have nonempty : whole.isEmpty = false := by simpa using some_digit
  cases fraction with
  | nil =>
    have here : (whole ++ rest).takeWhile isDecimalDigit = whole := takeWhile_digits_append whole_ascii ends.digits
    simp [unsigned?, here, nonempty, ends.fraction]
  | cons d fraction =>
    have here : (whole ++ '.' :: (d :: fraction ++ rest)).takeWhile isDecimalDigit = whole :=
      takeWhile_digits_append whole_ascii (List.takeWhile_cons_of_neg (by decide))
    have behind : (d :: fraction ++ rest).takeWhile isDecimalDigit = d :: fraction :=
      takeWhile_digits_append fraction_ascii ends.digits
    simp only [List.cons_append] at here behind
    simp [unsigned?, here, nonempty, fractionOf, behind]

theorem ne_sign_of_ascii (ascii : isAsciiDigit c = true) : c ≠ '-' := by
  rintro rfl
  revert ascii
  decide

/-- A decimal literal is read back. -/
theorem ofText?_chars_append (decimal : n.IsDecimal) (ends : EndsNumber rest) :
    ofText? (n.chars ++ rest) = some n := by
  have read := unsigned?_append decimal ends
  cases sign : n.negative with
  | true =>
    rw [sign] at read
    simpa [chars, sign, ofText?] using read
  | false =>
    -- The first digit is not taken for a sign.
    obtain ⟨c, whole, first⟩ := List.exists_cons_of_ne_nil decimal.whole_ne_nil
    have digit : c ≠ '-' := ne_sign_of_ascii (decimal.whole c (first ▸ List.mem_cons_self))
    rw [sign, first] at read
    simp only [chars, sign, first, Bool.false_eq_true, if_false, List.nil_append, List.append_assoc, List.cons_append]
      at read ⊢
    rw [ofText?]
    · exact read
    · intro more same
      exact digit (List.cons.inj same).1

theorem scanFrom_eq_drop (skip : Nat) (text : List Char) : scanFrom skip text = scan (text.drop skip) := by
  induction text generalizing skip with
  | nil => cases skip <;> rfl
  | cons c text ih =>
    cases skip with
    | zero => rfl
    | succ skip => exact ih skip

/-- A decimal literal is scanned, and the scan goes on behind it. -/
theorem scan_chars_append (decimal : n.IsDecimal) (ends : EndsNumber rest) :
    scan (n.chars ++ rest) = n :: scan rest := by
  have read := ofText?_chars_append decimal ends
  have nonempty : n.chars ≠ [] := by simp [chars, decimal.whole_ne_nil]
  obtain ⟨c, more, written⟩ := List.exists_cons_of_ne_nil nonempty
  rw [written, List.cons_append] at read ⊢
  rw [scan, scanFrom, read]
  simp only [written, List.length_cons, Nat.add_sub_cancel, scanFrom_eq_drop, List.drop_left]

end Reading

section Passing

/-- A text holds no digit of any script. -/
def HasNoDigit (text : List Char) : Prop := ∀ c ∈ text, isDecimalDigit c = false

instance : Decidable (HasNoDigit text) := List.decidableBAll (isDecimalDigit · = false) text

theorem takeWhile_of_hasNoDigit (none : HasNoDigit text) : text.takeWhile isDecimalDigit = [] := by
  cases text with
  | nil => rfl
  | cons c text => simp [none c List.mem_cons_self]

/-- A number is over at a text without digits of which more is left than a point. -/
theorem endsNumber_append (none : HasNoDigit text) (some : text ≠ []) (more : text ≠ ['.']) :
    EndsNumber (text ++ rest) := by
  cases text with
  | nil => exact absurd rfl some
  | cons c text =>
    obtain ⟨other, later⟩ := List.forall_mem_cons.1 none
    constructor
    · simp [other]
    · rw [List.cons_append]
      unfold fractionOf
      split
      · rename_i behind same
        obtain ⟨rfl, rfl⟩ := List.cons.inj same
        cases text with
        | nil => exact absurd rfl more
        | cons d text => simp [later d List.mem_cons_self]
      · rfl

/-- A number is over at the end of a text. -/
theorem HasNoDigit.endsNumber (none : HasNoDigit text) : EndsNumber text := by
  by_cases empty : text = []
  · subst empty
    constructor <;> rfl
  · by_cases point : text = ['.']
    · subst point
      constructor <;> rfl
    · have ends : EndsNumber (text ++ []) := endsNumber_append none empty point
      rwa [List.append_nil] at ends

theorem unsigned?_eq_none (stop : text.takeWhile isDecimalDigit = []) (negative : Bool) :
    unsigned? negative text = none := by
  simp [unsigned?, stop]

/-- A scan goes on behind a character that is no digit, nor a sign in front of one. -/
theorem scan_cons (other : isDecimalDigit c = false) (unsigned : c = '-' → text.takeWhile isDecimalDigit = []) :
    scan (c :: text) = scan text := by
  have nothing : ofText? (c :: text) = none := by
    unfold ofText?
    split
    · rename_i more same
      obtain ⟨rfl, rfl⟩ := List.cons.inj same
      exact unsigned?_eq_none (unsigned rfl) true
    · apply unsigned?_eq_none
      simp [other]
  rw [scan, scanFrom, nothing]
  rfl

/-- No literal is in a text without digits. -/
theorem scan_of_hasNoDigit (none : HasNoDigit text) : scan text = [] := by
  induction text with
  | nil => rfl
  | cons c text ih =>
    obtain ⟨other, later⟩ := List.forall_mem_cons.1 none
    rw [scan_cons other, ih later]
    intro _
    exact takeWhile_of_hasNoDigit later

/-- A text without digits is passed over, unless its end is the sign of what follows. -/
theorem scan_append (none : HasNoDigit text) (unsigned : text.getLast? ≠ some '-') :
    scan (text ++ rest) = scan rest := by
  induction text with
  | nil => rfl
  | cons c text ih =>
    obtain ⟨other, later⟩ := List.forall_mem_cons.1 none
    cases text with
    | nil =>
      apply scan_cons other
      intro sign
      simp [sign] at unsigned
    | cons d text =>
      have last : (d :: text).getLast? ≠ some '-' := by simpa using unsigned
      rw [List.cons_append, scan_cons other, ih later last]
      intro _
      simp [later d List.mem_cons_self]

end Passing

end Literal

/-- Literals in prose: each with what is written in front of it, and what is behind the last one. -/
structure Prose where
  items : List (List Char × Literal)
  ending : List Char

namespace Prose

/-- The text of the literals and of what is between them. -/
def chars (prose : Prose) : List Char :=
  prose.items.flatMap (fun item => item.1 ++ item.2.chars) ++ prose.ending

/-- The literals can be told from what is between them: that holds no digits, no sign in front of a literal,
and two literals do not meet, nor with nothing but a point between them. -/
structure IsPlain (prose : Prose) : Prop where
  decimal : ∀ item ∈ prose.items, item.2.IsDecimal
  noDigit : ∀ item ∈ prose.items, Literal.HasNoDigit item.1
  unsigned : ∀ item ∈ prose.items, item.1.getLast? ≠ some '-'
  apart : ∀ item ∈ prose.items.tail, item.1 ≠ [] ∧ item.1 ≠ ['.']
  ending : Literal.HasNoDigit prose.ending

instance {prose : Prose} : Decidable prose.IsPlain :=
  decidable_of_iff
    ((∀ item ∈ prose.items, item.2.IsDecimal ∧ Literal.HasNoDigit item.1 ∧ item.1.getLast? ≠ some '-') ∧
      (∀ item ∈ prose.items.tail, item.1 ≠ [] ∧ item.1 ≠ ['.']) ∧ Literal.HasNoDigit prose.ending)
    ⟨fun ⟨each, apart, ending⟩ =>
        ⟨fun item mem => (each item mem).1, fun item mem => (each item mem).2.1, fun item mem => (each item mem).2.2,
          apart, ending⟩,
      fun plain =>
        ⟨fun item mem => ⟨plain.decimal item mem, plain.noDigit item mem, plain.unsigned item mem⟩, plain.apart,
          plain.ending⟩⟩

variable {item : List Char × Literal} {items : List (List Char × Literal)} {ending : List Char}

theorem chars_cons : chars ⟨item :: items, ending⟩ = item.1 ++ (item.2.chars ++ chars ⟨items, ending⟩) := by
  simp [chars]

theorem IsPlain.tail (plain : IsPlain ⟨item :: items, ending⟩) : IsPlain ⟨items, ending⟩ where
  decimal := (List.forall_mem_cons.1 plain.decimal).2
  noDigit := (List.forall_mem_cons.1 plain.noDigit).2
  unsigned := (List.forall_mem_cons.1 plain.unsigned).2
  apart other mem := plain.apart other (List.mem_of_mem_tail mem)
  ending := plain.ending

/-- What is behind a literal of plain prose does not go on with it. -/
theorem IsPlain.endsNumber (plain : IsPlain ⟨item :: items, ending⟩) :
    Literal.EndsNumber (chars ⟨items, ending⟩) := by
  cases items with
  | nil => exact plain.ending.endsNumber
  | cons next items =>
    obtain ⟨some, more⟩ := plain.apart next List.mem_cons_self
    rw [chars_cons]
    exact Literal.endsNumber_append (plain.noDigit next (List.mem_cons_of_mem _ List.mem_cons_self)) some more

/-- The literals of plain prose are scanned. -/
theorem scan_chars (plain : IsPlain ⟨items, ending⟩) : Literal.scan (chars ⟨items, ending⟩) = items.map Prod.snd := by
  induction items with
  | nil => exact Literal.scan_of_hasNoDigit plain.ending
  | cons item items ih =>
    obtain ⟨noDigit, -⟩ := List.forall_mem_cons.1 plain.noDigit
    obtain ⟨unsigned, -⟩ := List.forall_mem_cons.1 plain.unsigned
    obtain ⟨decimal, -⟩ := List.forall_mem_cons.1 plain.decimal
    rw [chars_cons, Literal.scan_append noDigit unsigned, Literal.scan_chars_append decimal plain.endsNumber,
      ih plain.tail]
    rfl

/-- The numbers that are written in prose, in order. -/
def numbers (prose : Prose) : List Binary64 := prose.items.map fun item => item.2.number

theorem answerNumbers_chars {prose : Prose} (plain : prose.IsPlain) : answerNumbers prose.chars = prose.numbers := by
  rw [answerNumbers, scan_chars plain, List.filterMap_map, numbers]
  apply List.filterMap_eq_map_iff_forall_eq_some.2
  intro item mem
  exact Literal.value?_eq (plain.decimal item mem)

end Prose

section Corners

variable {α : Type} {numbers more : List α}

theorem corners?_eq_none_iff : corners? numbers = none ↔ numbers.length < 4 := by
  rcases numbers with _ | ⟨a, _ | ⟨b, _ | ⟨c, _ | ⟨d, _ | ⟨e, _ | ⟨f, more⟩⟩⟩⟩⟩⟩ <;> simp [corners?]

/-- The first four numbers are the corners, but where there is just one more. -/
theorem corners?_of_first {a b c d : α} (other : more.length ≠ 1) :
    corners? (a :: b :: c :: d :: more) = some (a, b, c, d) := by
  rcases more with _ | ⟨e, _ | ⟨f, more⟩⟩
  · rfl
  · exact absurd rfl other
  · rfl

end Corners

/-- There is a rectangle in an answer of four numbers or more. -/
theorem Rect.isSome_ofAnswer?_iff (answer : String) (canvas : Size Binary64) :
    (Rect.ofAnswer? answer canvas).isSome ↔ 4 ≤ (answerNumbers answer.toList).length := by
  rw [Rect.ofAnswer?, Rect.ofNumbers?, Option.isSome_map, Option.isSome_iff_ne_none, Ne, corners?_eq_none_iff]
  omega

namespace Prose

/-- **Numbers in prose.** An answer of plain prose holds the numbers that were written in it, in order. There is
no rectangle in it when they are fewer than four; of five the first is left out, and else the first four are it. -/
theorem answerNumbers_recovered {prose : Prose} (plain : prose.IsPlain) :
    answerNumbers prose.chars = prose.numbers ∧
      ∀ canvas,
        (Rect.ofAnswer? (String.ofList prose.chars) canvas = none ↔ prose.items.length < 4) ∧
        (∀ a b c d e, prose.numbers = [a, b, c, d, e] →
          Rect.ofAnswer? (String.ofList prose.chars) canvas = some (Rect.ofShares b c d e canvas)) ∧
        ∀ a b c d more, prose.numbers = a :: b :: c :: d :: more → more.length ≠ 1 →
          Rect.ofAnswer? (String.ofList prose.chars) canvas = some (Rect.ofShares a b c d canvas) := by
  have read := answerNumbers_chars plain
  refine ⟨read, fun canvas => ?_⟩
  have rect : Rect.ofAnswer? (String.ofList prose.chars) canvas = Rect.ofNumbers? prose.numbers canvas := by
    rw [Rect.ofAnswer?, String.toList_ofList, read]
  have count : prose.numbers.length = prose.items.length := List.length_map _
  rw [rect]
  refine ⟨?_, ?_, ?_⟩
  · rw [Rect.ofNumbers?, Option.map_eq_none_iff, corners?_eq_none_iff, count]
  · intro a b c d e written
    rw [written]
    rfl
  · intro a b c d more written other
    rw [written, Rect.ofNumbers?, corners?_of_first other]
    rfl

/-- A rectangle behind a measure of confidence, with a sign and two points in a row. -/
def scored : Prose where
  items :=
    [([], ⟨false, ['0'], ['9', '3']⟩), ([':', ' ', '['], ⟨true, ['0'], ['5']⟩), (['.', '.'], ⟨false, ['1'], []⟩),
      ([','], ⟨false, ['0'], ['7', '5']⟩), ([' ', 'x', ' '], ⟨false, ['1'], []⟩)]
  ending := [']', '.']

theorem answerNumbers_recovered_scored :
    scored.IsPlain ∧ scored.chars = "0.93: [-0.5..1,0.75 x 1].".toList ∧
      answerNumbers "0.93: [-0.5..1,0.75 x 1].".toList = scored.numbers ∧
      ∃ a b c d e, scored.numbers = [a, b, c, d, e] ∧
        ∀ canvas, Rect.ofAnswer? "0.93: [-0.5..1,0.75 x 1]." canvas = some (Rect.ofShares b c d e canvas) := by
  have plain : scored.IsPlain := by decide +kernel
  have written : scored.chars = "0.93: [-0.5..1,0.75 x 1].".toList := by decide +kernel
  obtain ⟨read, rects⟩ := answerNumbers_recovered plain
  rw [written, String.ofList_toList] at rects
  rw [written] at read
  refine ⟨plain, written, read, _, _, _, _, _, rfl, fun canvas => ?_⟩
  exact (rects canvas).2.1 _ _ _ _ _ rfl

end Prose

end CanvasScript
