import CanvasScript.Proofs.Json.Canonical
import CanvasScript.Proofs.Json.Tokens

/-!
# Numbers are read as they are written

A number is read part by part, each as far as it goes (`number_sound`, `number_complete`). What
it stands for does not depend on the place (`denotes_of_numberOf`) and is a value that JSON has
(`Value.Proper`).
-/

namespace CanvasScript.Json

open Outcome (bind_eq_ok_iff)
open Text (isAsciiDigit)

variable {cs rest : List Char} {input after : Input} {place : Place}

/-- No digit goes on here. -/
def NoDigit (cs : List Char) : Prop := ∀ c rest, cs = c :: rest → isAsciiDigit c = false

theorem takeWhile_digits (ds : List Char) (digits : Digits ds) (stops : NoDigit rest) :
    (ds ++ rest).takeWhile isAsciiDigit = ds := by
  have none : rest.takeWhile isAsciiDigit = [] := by
    cases rest with
    | nil => rfl
    | cons c rest => rw [List.takeWhile_cons, stops c rest rfl]; rfl
  rw [List.takeWhile_append_of_pos digits, none, List.append_nil]

/-- The digits at the start of an input are taken off it. -/
theorem exists_of_digits (input : Input) :
    Digits input.digits ∧ input.rest = input.digits ++ (input.drop input.digits.length).rest := by
  unfold Input.digits Input.drop
  constructor
  · exact List.all_eq_true.1 List.all_takeWhile
  · exact (List.prefix_iff_eq_append.1 (List.takeWhile_prefix isAsciiDigit)).symm

/-- What is taken off the start of an input leaves the rest. -/
theorem drop_append (ds rest : List Char) (place : Place) :
    ∃ after, Input.drop { rest := ds ++ rest, place } ds.length = { rest, place := after } := by
  refine ⟨{ place with column := place.column + ds.length }, ?_⟩
  rw [Input.drop]
  simp only [List.drop_left]

section Parts

theorem wholePart_complete {whole : List Char} (text : WholeText whole) (stops : NoDigit rest) (place : Place) :
    Gives (wholePart { rest := whole ++ rest, place }) whole rest := by
  cases text with
  | zero =>
    have none : (Input.drop { rest := '0' :: rest, place } 1).digits = [] := takeWhile_digits [] nofun stops
    show Gives (if (Input.drop { rest := '0' :: rest, place } 1).digits.isEmpty then _ else _) _ _
    rw [none]
    exact ⟨_, rfl⟩
  | @digits c ds digit notZero behind =>
    have all : Input.digits { rest := c :: (ds ++ rest), place } = c :: ds :=
      takeWhile_digits (c :: ds) (List.forall_mem_cons.2 ⟨digit, behind⟩) stops
    rw [List.cons_append]
    unfold wholePart
    split
    case h_1 empty => cases empty
    case h_2 zero => exact absurd (List.cons.inj zero).1 notZero
    case h_3 d _ _ same =>
      obtain ⟨rfl, -⟩ := List.cons.inj same
      obtain ⟨after, dropped⟩ := drop_append (c :: ds) rest place
      rw [if_pos digit, all]
      exact ⟨after, congrArg (fun input => Except.ok (c :: ds, input)) dropped⟩

theorem wholePart_sound {whole : List Char} (reads : wholePart input = .ok (whole, after)) :
    input.rest = whole ++ after.rest ∧ WholeText whole := by
  obtain ⟨cs, place⟩ := input
  unfold wholePart at reads
  split at reads
  case h_1 => cases reads
  case h_2 tail zero =>
    split at reads
    case isTrue =>
      cases reads
      refine ⟨?_, .zero⟩
      have zero : cs = '0' :: tail := zero
      rw [zero]
      rfl
    case isFalse => cases reads
  case h_3 c tail notZero same =>
    have same : cs = c :: tail := same
    split at reads
    case isTrue digit =>
      cases reads
      obtain ⟨digits, split⟩ := exists_of_digits { rest := cs, place }
      refine ⟨split, ?_⟩
      have taken : Input.digits { rest := cs, place } = c :: tail.takeWhile isAsciiDigit := by
        show cs.takeWhile isAsciiDigit = _
        rw [same, List.takeWhile_cons, if_pos digit]
      rw [taken] at digits ⊢
      refine .digits digit ?_ (List.forall_mem_cons.1 digits).2
      exact notZero
    case isFalse => cases reads

theorem fraction_complete {fraction : List Char} {fraction? : Option (List Char)}
    (text : FractionText fraction fraction?) (stops : ∀ c tail, rest = c :: tail → isAsciiDigit c = false ∧ c ≠ '.')
    (place : Place) : Gives (Json.fraction { rest := fraction ++ rest, place }) fraction? rest := by
  cases text with
  | none =>
    have notPoint : Input.startsWith { rest := rest, place } ['.'] = false := by
      cases rest with
      | nil => rfl
      | cons c tail => simpa [Input.startsWith] using (stops c tail rfl).2
    rw [List.nil_append, Json.fraction, notPoint]
    exact ⟨_, rfl⟩
  | @some ds digits nonempty =>
    have all : (Input.drop { rest := '.' :: (ds ++ rest), place } 1).digits = ds :=
      takeWhile_digits _ digits fun c tail same => (stops c tail same).1
    have pointed : Input.startsWith { rest := '.' :: (ds ++ rest), place } ['.'] = true := rfl
    obtain ⟨after, dropped⟩ := drop_append ds rest { place with column := place.column + 1 }
    rw [List.cons_append, Json.fraction, pointed, if_pos rfl]
    simp only [all, List.isEmpty_iff, nonempty, if_false]
    exact ⟨after, congrArg (fun input => Except.ok (some ds, input)) dropped⟩

theorem fraction_sound {fraction? : Option (List Char)} (reads : fraction input = .ok (fraction?, after)) :
    ∃ fraction, input.rest = fraction ++ after.rest ∧ FractionText fraction fraction? := by
  obtain ⟨cs, place⟩ := input
  unfold fraction at reads
  split at reads
  case isTrue pointed =>
    simp only at reads
    split at reads
    case isTrue => cases reads
    case isFalse nonempty =>
      cases reads
      obtain ⟨digits, split⟩ := exists_of_digits (Input.drop { rest := cs, place } 1)
      cases cs with
      | nil => cases pointed
      | cons c tail =>
        have point : c = '.' := by simpa [Input.startsWith] using pointed
        subst point
        exact ⟨'.' :: _, congrArg ('.' :: ·) split, .some digits (by simpa using nonempty)⟩
  case isFalse =>
    cases reads
    exact ⟨[], rfl, .none⟩

/-- The sign of an exponent is told by its first character and taken off. -/
theorem sign_complete {sign : List Char} {negative : Bool} (signed : SignText sign negative) {c : Char}
    (digit : isAsciiDigit c = true) (rest : List Char) (place : Place) :
    ∃ start, Input.startsWith { rest := sign ++ c :: rest, place } ['-'] = negative ∧
      (if Input.startsWith { rest := sign ++ c :: rest, place } ['+', '-'] then
          Input.drop { rest := sign ++ c :: rest, place } 1
        else { rest := sign ++ c :: rest, place }) = { rest := c :: rest, place := start } := by
  cases signed with
  | none =>
    have notMinus : c ≠ '-' := forall_digit (P := (· ≠ '-')) (by decide) digit
    have notPlus : c ≠ '+' := forall_digit (P := (· ≠ '+')) (by decide) digit
    refine ⟨place, ?_, ?_⟩
    · simpa [Input.startsWith] using notMinus
    · rw [if_neg]
      · rfl
      · simpa [Input.startsWith] using ⟨notPlus, notMinus⟩
  | plus => exact ⟨_, rfl, rfl⟩
  | minus => exact ⟨_, rfl, rfl⟩

/-- What an input has lost with the sign of an exponent. -/
theorem sign_sound (input : Input) :
    ∃ sign start, (if input.startsWith ['+', '-'] then input.drop 1 else input) = start ∧
      input.rest = sign ++ start.rest ∧ SignText sign (input.startsWith ['-']) := by
  obtain ⟨rest, place⟩ := input
  cases rest with
  | nil => exact ⟨[], _, rfl, rfl, .none⟩
  | cons c rest =>
    by_cases minus : c = '-'
    · subst minus
      exact ⟨['-'], _, rfl, rfl, .minus⟩
    · by_cases plus : c = '+'
      · subst plus
        exact ⟨['+'], _, rfl, rfl, .plus⟩
      · have notMinus : Input.startsWith { rest := c :: rest, place } ['-'] = false := by
          simpa [Input.startsWith] using minus
        have notEither : Input.startsWith { rest := c :: rest, place } ['+', '-'] = false := by
          simpa [Input.startsWith] using ⟨plus, minus⟩
        rw [notMinus, notEither]
        exact ⟨[], _, rfl, rfl, .none⟩

theorem exponent_complete {exponent : List Char} {exponent? : Option Exponent} (text : ExponentText exponent exponent?)
    (closed : Closed rest) (place : Place) :
    ∃ start, Gives (Json.exponent { rest := exponent ++ rest, place }) (exponent?.map fun e => (e, start)) rest := by
  cases text with
  | none =>
    have noLetter : Input.startsWith { rest := rest, place } ['e', 'E'] = false := by
      cases rest with
      | nil => rfl
      | cons c tail => simpa [Input.startsWith] using (closed c tail rfl).2.2
    refine ⟨{ rest, place }, ?_⟩
    rw [List.nil_append, Json.exponent, noLetter]
    exact ⟨_, rfl⟩
  | @some c sign ds negative letter signed digits nonempty =>
    obtain ⟨d, tail, rfl⟩ := List.exists_cons_of_ne_nil nonempty
    have lettered : Input.startsWith { rest := c :: (sign ++ d :: (tail ++ rest)), place } ['e', 'E'] = true := by
      simpa [Input.startsWith] using letter
    obtain ⟨start, isNegative, unsigned⟩ := sign_complete signed (digits d List.mem_cons_self) (tail ++ rest)
      { place with column := place.column + 1 }
    have all : Input.digits { rest := d :: (tail ++ rest), place := start } = d :: tail :=
      takeWhile_digits _ digits fun c tail same => (closed c tail same).1
    obtain ⟨after, dropped⟩ : ∃ after, Input.drop { rest := d :: (tail ++ rest), place := start } (d :: tail).length =
        { rest, place := after } := drop_append (d :: tail) rest start
    have behind : Input.drop { rest := c :: (sign ++ d :: (tail ++ rest)), place } 1 =
        { rest := sign ++ d :: (tail ++ rest), place := { place with column := place.column + 1 } } := rfl
    refine ⟨{ rest := d :: (tail ++ rest), place := start }, after, ?_⟩
    rw [List.cons_append, List.append_assoc, List.cons_append, Json.exponent, lettered, if_pos rfl]
    simp only [behind, isNegative, unsigned, all, List.isEmpty_cons, Bool.false_eq_true, if_false, dropped]
    rfl

theorem exponent_sound {exponent? : Option (Exponent × Input)}
    (reads : Json.exponent input = .ok (exponent?, after)) :
    ∃ exponent, input.rest = exponent ++ after.rest ∧ ExponentText exponent (exponent?.map Prod.fst) := by
  obtain ⟨cs, place⟩ := input
  unfold Json.exponent at reads
  split at reads
  case isTrue lettered =>
    cases cs with
    | nil => cases lettered
    | cons c tail =>
      have letter : c = 'e' ∨ c = 'E' := by simpa [Input.startsWith] using lettered
      obtain ⟨sign, start, unsigned, split, signed⟩ := sign_sound (Input.drop { rest := c :: tail, place } 1)
      simp only [unsigned] at reads
      obtain ⟨digits, split'⟩ := exists_of_digits start
      split at reads
      case isTrue =>
        split at reads <;> cases reads
      case isFalse nonempty =>
        cases reads
        refine ⟨c :: (sign ++ start.digits), ?_, .some letter signed digits (by simpa using nonempty)⟩
        rw [List.cons_append, List.append_assoc, ← split', ← split]
        rfl
  case isFalse =>
    cases reads
    exact ⟨[], rfl, .none⟩

/-- A minus is told and taken off. -/
theorem minus_complete (negative : Bool) {c : Char} (digit : isAsciiDigit c = true) (rest : List Char) (place : Place) :
    ∃ after, Input.startsWith { rest := minusChars negative ++ c :: rest, place } ['-'] = negative ∧
      (if negative then Input.drop { rest := minusChars negative ++ c :: rest, place } 1
        else { rest := minusChars negative ++ c :: rest, place }) = { rest := c :: rest, place := after } := by
  have notMinus : c ≠ '-' := forall_digit (P := (· ≠ '-')) (by decide) digit
  cases negative with
  | true => exact ⟨_, rfl, rfl⟩
  | false => exact ⟨place, by simpa [Input.startsWith, minusChars] using notMinus, rfl⟩

theorem minus_sound (input : Input) :
    input.rest = minusChars (input.startsWith ['-']) ++
      (if input.startsWith ['-'] then input.drop 1 else input).rest := by
  obtain ⟨rest, place⟩ := input
  cases minus : Input.startsWith { rest, place } ['-'] with
  | false => rfl
  | true =>
    cases rest with
    | nil => cases minus
    | cons c tail =>
      obtain rfl : c = '-' := by simpa [Input.startsWith] using minus
      rfl

end Parts

section Values

variable {negative : Bool} {whole : List Char} {fraction? : Option (List Char)} {v : Value}

/-- A number that JSON has: an integer of 64 bits or a finite floating-point number. -/
inductive Value.IsNumeral : Value → Prop where
  | int {n : Int} (least : -(Binary64.int64Bound : Int) ≤ n) (most : n < UInt64.size) : IsNumeral (.int n)
  | float {x : Binary64} (finite : x.isFinite = true) : IsNumeral (.float x)

theorem Value.IsNumeral.proper (numeral : v.IsNumeral) : v.Proper := by
  cases numeral with
  | int least most => exact .int least most
  | float finite => exact .float finite

theorem Value.IsNumeral.canonical (numeral : v.IsNumeral) : v.canonical = v := by
  cases numeral <;> rfl

/-- An integer that is read fits 64 bits, if it is kept as an integer. -/
theorem isNumeral_of_integer {n : Nat} (finite : ∀ x, integer negative n = .float x → x.isFinite = true) :
    (integer negative n).IsNumeral := by
  unfold integer at finite ⊢
  have bound : Binary64.int64Bound < UInt64.size := by decide
  split at finite
  case isTrue =>
    split at finite
    case isTrue fits =>
      rw [if_pos ‹_›, if_pos fits]
      exact .int (by omega) (by omega)
    case isFalse tooLarge =>
      rw [if_pos ‹_›, if_neg tooLarge]
      exact .float (finite _ rfl)
  case isFalse =>
    split at finite
    case isTrue fits =>
      rw [if_neg ‹_›, if_pos fits]
      exact .int (by omega) (by omega)
    case isFalse tooLarge =>
      rw [if_neg ‹_›, if_neg tooLarge]
      exact .float (finite _ rfl)

/-- A value, unless it is no finite number. -/
def finiteOnly (input : Input) (value : Value) : Except Mistake Value :=
  match value with
  | .float x => if x.isFinite then .ok value else input.failHere .numberOutOfRange
  | _ => .ok value

theorem finiteOnly_eq_ok_iff {input : Input} {value : Value} :
    finiteOnly input value = .ok v ↔ value = v ∧ ∀ x, value = .float x → x.isFinite = true := by
  cases value with
  | float x =>
    by_cases finite : x.isFinite = true
    · simp [finiteOnly, finite]
    · simp [finiteOnly, finite, Input.failHere]
  | _ => simp [finiteOnly]

theorem numberOf_whole (input : Input) :
    numberOf negative whole none none input = finiteOnly input (integer negative (Decimal.ofDigits (whole ++ []))) := rfl

theorem numberOf_fraction (ds : List Char) (input : Input) :
    numberOf negative whole (some ds) none input =
      finiteOnly input (.float (Decimal.nearest negative
        { digits := Decimal.ofDigits (whole ++ ds), exponent := -ds.length })) := rfl

theorem numberOf_exponent (e : Exponent) (start input : Input) :
    numberOf negative whole fraction? (some (e, start)) input =
      match e.overflowAt? with
      | some count =>
        if Decimal.ofDigits (whole ++ fraction?.getD []) = 0 ∨ e.negative then
          .ok (.float { Binary64.zero with negative })
        else (start.drop count).failHere .numberOutOfRange
      | none =>
        finiteOnly input (.float (Decimal.nearest negative
          { digits := Decimal.ofDigits (whole ++ fraction?.getD []),
            exponent := e.value - (fraction?.getD []).length })) := by
  cases fraction? <;> rfl

/-- What a number stands for does not depend on where it stands, and is one that JSON has. -/
theorem denotes_of_numberOf {exponent? : Option (Exponent × Input)} {input : Input}
    (value : numberOf negative whole fraction? exponent? input = .ok v) :
    Denotes negative whole fraction? (exponent?.map Prod.fst) v ∧ v.IsNumeral := by
  unfold Denotes
  rcases exponent? with _ | ⟨e, place⟩
  · cases fraction? with
    | none =>
      simp only [Option.map_none, numberOf_whole, finiteOnly_eq_ok_iff] at value ⊢
      obtain ⟨rfl, finite⟩ := value
      exact ⟨fun _ _ => ⟨rfl, finite⟩, isNumeral_of_integer finite⟩
    | some ds =>
      simp only [Option.map_none, numberOf_fraction, finiteOnly_eq_ok_iff] at value ⊢
      obtain ⟨rfl, finite⟩ := value
      exact ⟨fun _ _ => ⟨rfl, finite⟩, .float (finite _ rfl)⟩
  · simp only [Option.map_some, numberOf_exponent] at value ⊢
    cases overflow : e.overflowAt? with
    | none =>
      simp only [overflow, finiteOnly_eq_ok_iff] at value ⊢
      obtain ⟨rfl, finite⟩ := value
      exact ⟨fun _ _ => ⟨rfl, finite⟩, .float (finite _ rfl)⟩
    | some count =>
      simp only [overflow] at value ⊢
      split at value
      case isTrue zero =>
        obtain rfl := Except.ok.inj value
        refine ⟨fun start input => if_pos zero, .float ?_⟩
        cases negative <;> decide
      case isFalse => cases value

end Values

theorem number_complete {v : Value} (text : NumberText cs v) (closed : Closed rest) (place : Place) :
    Gives (number { rest := cs ++ rest, place }) v rest := by
  cases text with
  | @parts negative whole fraction exponent fraction? exponent? _ isWhole isFraction isExponent denotes =>
    have exponentHead : ∀ c tail, exponent ++ rest = c :: tail → isAsciiDigit c = false ∧ c ≠ '.' := by
      intro c tail same
      cases isExponent with
      | none => exact ⟨(closed c tail same).1, (closed c tail same).2.1⟩
      | some letter _ _ _ =>
        obtain rfl := (List.cons.inj same).1
        rcases letter with rfl | rfl <;> decide
    have fractionHead : NoDigit (fraction ++ (exponent ++ rest)) := by
      intro c tail same
      cases isFraction with
      | none => exact (exponentHead c tail same).1
      | some _ _ =>
        obtain rfl := (List.cons.inj same).1
        decide
    obtain ⟨c, tail, rfl, digit⟩ := isWhole.exists_digit
    obtain ⟨after, isNegative, unsigned⟩ :=
      minus_complete negative digit (tail ++ (fraction ++ (exponent ++ rest))) place
    rw [List.append_assoc, List.append_assoc, List.append_assoc, List.cons_append, number]
    simp only [isNegative, unsigned]
    refine (wholePart_complete isWhole fractionHead after).bind fun place => ?_
    refine (fraction_complete isFraction exponentHead place).bind fun place => ?_
    obtain ⟨start, reads⟩ := exponent_complete isExponent closed place
    refine reads.bind fun place => ?_
    refine ⟨place, ?_⟩
    show (numberOf _ _ _ _ _ >>= _) = _
    rw [denotes]
    rfl

theorem number_sound {v : Value} (reads : number input = .ok (v, after)) :
    ∃ core, input.rest = core ++ after.rest ∧ NumberText core v ∧ v.IsNumeral := by
  unfold number at reads
  simp only at reads
  obtain ⟨⟨whole, second⟩, first, reads'⟩ := bind_eq_ok_iff.1 reads
  obtain ⟨⟨fraction?, third⟩, fractional, reads'⟩ := bind_eq_ok_iff.1 reads'
  obtain ⟨⟨exponent?, last⟩, exponential, reads'⟩ := bind_eq_ok_iff.1 reads'
  obtain ⟨value, valued, done⟩ := bind_eq_ok_iff.1 reads'
  obtain ⟨rfl, rfl⟩ := Prod.mk.inj (Except.ok.inj done)
  obtain ⟨denotes, numeral⟩ := denotes_of_numberOf valued
  obtain ⟨split, isWhole⟩ := wholePart_sound first
  obtain ⟨fraction, split', isFraction⟩ := fraction_sound fractional
  obtain ⟨exponent, split'', isExponent⟩ := exponent_sound exponential
  refine ⟨_, ?_, .parts isWhole isFraction isExponent denotes, numeral⟩
  rw [List.append_assoc, List.append_assoc, List.append_assoc, ← split'', ← split', ← split]
  exact minus_sound input

/-- A number that is spelled is one that JSON has. -/
theorem NumberText.isNumeral {v : Value} (text : NumberText cs v) : v.IsNumeral := by
  cases text with
  | parts _ _ _ denotes => exact (denotes_of_numberOf (denotes (.ofText "") (.ofText ""))).2

end CanvasScript.Json
