import CanvasScript.Json.Writer
import CanvasScript.Proofs.Decimal.ReadBack
import CanvasScript.Proofs.Json.Entries
import Mathlib.Tactic.SplitIfs

/-!
# What is written spells the value

Every value that JSON has is spelled by the text that is written for it
(`Value.Proper.exists_spells`). For a floating-point number this rests on its digits being read
back as that number (`Decimal.nearest_shortest`), wherever its point and its exponent are.
-/

namespace CanvasScript.Json

open Decimal (ofDigits digitChars nearest)
open Text (isAsciiDigit)

section Numbers

variable {negative : Bool}

theorem digits_digitChars (n : Nat) : Digits (digitChars n) := fun _ mem => Decimal.isAsciiDigit_of_mem_digitChars mem

theorem digits_replicate (n : Nat) : Digits (List.replicate n '0') := by
  intro c mem
  rw [List.eq_of_mem_replicate mem]
  decide

/-- One digit is a whole part. -/
theorem wholeText_digit {c : Char} (digit : isAsciiDigit c = true) : WholeText [c] := by
  by_cases zero : c = '0'
  · rw [zero]
    exact .zero
  · exact .digits digit zero nofun

/-- The digits of a number that is not zero are a whole part, and so are those it starts with. -/
theorem wholeText_append {n : Nat} (nonzero : n ≠ 0) {ds rest : List Char} (digits : Digits ds)
    (starts : ∃ k, 0 < k ∧ ds = (digitChars n).take k ++ rest) : WholeText ds := by
  obtain ⟨c, tail, split, other⟩ := Decimal.exists_digitChars nonzero
  obtain ⟨k, pos, rfl⟩ := starts
  obtain ⟨k, rfl⟩ := Nat.exists_eq_succ_of_ne_zero (Nat.ne_of_gt pos)
  rw [split, List.take_succ_cons, List.cons_append] at digits ⊢
  obtain ⟨digit, behind⟩ := List.forall_mem_cons.1 digits
  exact .digits digit other behind

theorem wholeText_digitChars (n : Nat) : WholeText (digitChars n) := by
  by_cases zero : n = 0
  · rw [zero]
    exact .zero
  · have starts : ∃ k, 0 < k ∧ digitChars n = (digitChars n).take k ++ [] :=
      ⟨(digitChars n).length, List.length_pos_iff.2 (Decimal.digitChars_ne_nil n), by simp⟩
    exact wholeText_append zero (digits_digitChars n) starts

/-- **Integers are spelled.** -/
theorem numberText_intChars {n : Int} (least : -(Binary64.int64Bound : Int) ≤ n) (most : n < UInt64.size) :
    NumberText (intChars n) (.int n) := by
  have value : integer (decide (n < 0)) n.natAbs = .int n := by
    unfold integer
    by_cases below : n < 0
    · rw [if_pos (decide_eq_true below), if_pos (by omega)]
      congr 1
      omega
    · rw [if_neg (by simpa using below), if_pos (by omega)]
      congr 1
      omega
  have denotes : Denotes (decide (n < 0)) (digitChars n.natAbs) none none (.int n) := by
    intro start input
    show numberOf _ _ none none input = _
    rw [numberOf_whole, List.append_nil, Decimal.ofDigits_digitChars, value]
    rfl
  have text := NumberText.parts (wholeText_digitChars n.natAbs) .none .none denotes
  have same : minusChars (decide (n < 0)) ++ (digitChars n.natAbs ++ ([] ++ [])) = intChars n := by
    rw [List.append_nil, List.append_nil, minusChars, intChars]
    simp only [decide_eq_true_eq]
  rwa [same] at text

/-- A number with a point is spelled. -/
theorem numberText_fixed {whole fraction : List Char} {x : Binary64} (isWhole : WholeText whole)
    (digits : Digits fraction) (nonempty : fraction ≠ [])
    (value : nearest negative { digits := ofDigits (whole ++ fraction), exponent := -fraction.length } = x)
    (finite : x.isFinite = true) : NumberText (minusChars negative ++ (whole ++ '.' :: fraction)) (.float x) := by
  have denotes : Denotes negative whole (some fraction) none (.float x) := by
    intro start input
    show numberOf _ _ (some fraction) none input = _
    rw [numberOf_fraction, value, finiteOnly, finite]
    rfl
  have text := NumberText.parts isWhole (.some digits nonempty) .none denotes
  rwa [List.append_nil] at text

/-- An exponent that is not too large is taken as it is. -/
theorem overflowAt?_eq_none {e : Exponent} (small : ofDigits e.digits ≤ exponentLimit) : e.overflowAt? = none := by
  have grows (cs : List Char) (value : Nat) :
      value ≤ cs.foldl (fun n c => n * 10 + Decimal.digitValue c) value := by
    induction cs generalizing value with
    | nil => exact Nat.le_refl _
    | cons c cs ih =>
      have step : value ≤ value * 10 + Decimal.digitValue c := by omega
      exact Nat.le_trans step (ih _)
  have go (cs : List Char) (value count : Nat)
      (small : cs.foldl (fun n c => n * 10 + Decimal.digitValue c) value ≤ exponentLimit) :
      Exponent.overflowAt?.go value count cs = none := by
    induction cs generalizing value count with
    | nil => rfl
    | cons c cs ih =>
      have here := Nat.le_trans (grows cs _) small
      rw [Exponent.overflowAt?.go, if_neg (Nat.not_lt.2 here)]
      exact ih _ _ small
  exact go e.digits 0 0 small

theorem exponentText_exponentChars (e : Int) :
    ExponentText (Decimal.exponentChars e) (some { negative := decide (e < 0), digits := digitChars e.natAbs }) := by
  have text (sign : Char) (signed : SignText [sign] (decide (e < 0))) :
      ExponentText ('e' :: sign :: digitChars e.natAbs)
        (some { negative := decide (e < 0), digits := digitChars e.natAbs }) :=
    .some (.inl rfl) signed (digits_digitChars _) (Decimal.digitChars_ne_nil _)
  unfold Decimal.exponentChars
  by_cases below : e < 0
  · rw [if_pos below]
    exact text '-' (by rw [decide_eq_true below]; exact .minus)
  · rw [if_neg below]
    exact text '+' (by rw [decide_eq_false below]; exact .plus)

/-- A number with an exponent is spelled. -/
theorem numberText_scientific {c : Char} {fraction rest : List Char} {fraction? : Option (List Char)} {e : Int}
    {x : Binary64} (digit : isAsciiDigit c = true) (isFraction : FractionText fraction fraction?)
    (same : fraction?.getD [] = rest) (small : e.natAbs ≤ exponentLimit)
    (value : nearest negative { digits := ofDigits (c :: rest), exponent := e - rest.length } = x)
    (finite : x.isFinite = true) :
    NumberText (minusChars negative ++ ([c] ++ (fraction ++ Decimal.exponentChars e))) (.float x) := by
  refine .parts (wholeText_digit digit) isFraction (exponentText_exponentChars e) fun start input => ?_
  have exponent_eq : Exponent.value { negative := decide (e < 0), digits := digitChars e.natAbs } = e := by
    unfold Exponent.value
    simp only [Decimal.ofDigits_digitChars]
    split
    case isTrue below =>
      have := of_decide_eq_true below
      omega
    case isFalse notBelow =>
      have := of_decide_eq_false (Bool.eq_false_iff.2 notBelow)
      omega
  have fits : Exponent.overflowAt? { negative := decide (e < 0), digits := digitChars e.natAbs } = none :=
    overflowAt?_eq_none (by rw [Decimal.ofDigits_digitChars]; exact small)
  rw [Option.map_some, numberOf_exponent, fits, exponent_eq, same]
  show finiteOnly input (.float (nearest negative { digits := ofDigits (c :: rest), exponent := e - rest.length })) = _
  rw [value, finiteOnly, finite]
  rfl

section Layouts

variable {d : Decimal} {x : Binary64}

/-- One digit before the point and the others behind it, and an exponent. -/
theorem numberText_far (value : nearest negative d = x) (finite : x.isFinite = true)
    (small : (d.point - 1).natAbs ≤ exponentLimit) :
    NumberText (minusChars negative ++
      match digitChars d.digits with
      | [] => []
      | [c] => c :: Decimal.exponentChars (d.point - 1)
      | c :: rest => c :: '.' :: rest ++ Decimal.exponentChars (d.point - 1)) (.float x) := by
  obtain ⟨c, rest, split⟩ := List.exists_cons_of_ne_nil (Decimal.digitChars_ne_nil d.digits)
  have digits := digits_digitChars d.digits
  have back := Decimal.ofDigits_digitChars d.digits
  rw [split] at digits back ⊢
  obtain ⟨digit, behind⟩ := List.forall_mem_cons.1 digits
  have scaled : d.point - 1 - rest.length = d.exponent := by
    rw [Decimal.point, split, List.length_cons]
    omega
  have value' : nearest negative { digits := ofDigits (c :: rest), exponent := d.point - 1 - rest.length } = x := by
    rw [back, scaled]
    exact value
  cases rest with
  | nil => exact numberText_scientific digit .none rfl small value' finite
  | cons d rest =>
    have pointed : FractionText ('.' :: d :: rest) (some (d :: rest)) := .some behind (List.cons_ne_nil d rest)
    exact numberText_scientific digit pointed rfl small value' finite

/-- A whole number with all its zeros, and one behind the point. -/
theorem numberText_whole (value : nearest negative d = x) (finite : x.isFinite = true)
    (zero : d.digits = 0 → d.exponent = 0) (whole : 0 ≤ d.exponent) :
    NumberText (minusChars negative ++ (digitChars d.digits ++ List.replicate d.exponent.toNat '0' ++ ['.', '0']))
      (.float x) := by
  have isWhole : WholeText (digitChars d.digits ++ List.replicate d.exponent.toNat '0') := by
    by_cases none : d.digits = 0
    · rw [none, zero none]
      exact .zero
    · have digits : Digits (digitChars d.digits ++ List.replicate d.exponent.toNat '0') :=
        List.forall_mem_append.2 ⟨digits_digitChars _, digits_replicate _⟩
      refine wholeText_append none digits ⟨(digitChars d.digits).length, ?_, by rw [List.take_length]⟩
      exact List.length_pos_iff.2 (Decimal.digitChars_ne_nil _)
  have value' : nearest negative
      { digits := ofDigits (digitChars d.digits ++ List.replicate d.exponent.toNat '0' ++ ['0']),
        exponent := -(['0'] : List Char).length } = x := by
    have zeros := Decimal.ofDigits_append_replicate (digitChars d.digits) (d.exponent.toNat + 1)
    rw [List.replicate_succ', ← List.append_assoc, Decimal.ofDigits_digitChars] at zeros
    rw [zeros, Decimal.nearest_shift, ← value]
    congr 2
    rw [List.length_singleton]
    omega
  exact numberText_fixed isWhole (digits_replicate 1) (List.cons_ne_nil _ _) value' finite

/-- Digits on both sides of the point. -/
theorem numberText_split (value : nearest negative d = x) (finite : x.isFinite = true) (nonzero : d.digits ≠ 0)
    (broken : d.exponent < 0) (above : 0 < d.point) :
    NumberText (minusChars negative ++
      ((digitChars d.digits).take d.point.toNat ++ '.' :: (digitChars d.digits).drop d.point.toNat)) (.float x) := by
  have digits := digits_digitChars d.digits
  have length : ((digitChars d.digits).length : Int) = d.point - d.exponent := by
    rw [Decimal.point]
    omega
  have isWhole : WholeText ((digitChars d.digits).take d.point.toNat) :=
    wholeText_append nonzero (fun c mem => digits c (List.mem_of_mem_take mem))
      ⟨d.point.toNat, by omega, (List.append_nil _).symm⟩
  have nonempty : (digitChars d.digits).drop d.point.toNat ≠ [] := by
    rw [Ne, List.drop_eq_nil_iff]
    omega
  refine numberText_fixed isWhole (fun c mem => digits c (List.mem_of_mem_drop mem)) nonempty ?_ finite
  rw [List.take_append_drop, Decimal.ofDigits_digitChars, ← value]
  congr 2
  rw [List.length_drop]
  omega

/-- All digits behind the point. -/
theorem numberText_below (value : nearest negative d = x) (finite : x.isFinite = true) (below : d.point ≤ 0) :
    NumberText (minusChars negative ++ ('0' :: '.' :: List.replicate (-d.point).toNat '0' ++ digitChars d.digits))
      (.float x) := by
  have digits : Digits (List.replicate (-d.point).toNat '0' ++ digitChars d.digits) :=
    List.forall_mem_append.2 ⟨digits_replicate _, digits_digitChars _⟩
  have nonempty : List.replicate (-d.point).toNat '0' ++ digitChars d.digits ≠ [] := by
    rw [Ne, List.append_eq_nil_iff]
    exact fun both => Decimal.digitChars_ne_nil _ both.2
  have value' : nearest negative
      { digits := ofDigits (['0'] ++ (List.replicate (-d.point).toNat '0' ++ digitChars d.digits)),
        exponent := -(List.replicate (-d.point).toNat '0' ++ digitChars d.digits).length } = x := by
    have lead := Decimal.ofDigits_replicate_append ((-d.point).toNat + 1) (digitChars d.digits)
    rw [List.replicate_succ, List.cons_append, Decimal.ofDigits_digitChars] at lead
    rw [List.singleton_append, lead, ← value]
    congr 2
    rw [List.length_append, List.length_replicate]
    unfold Decimal.point at below ⊢
    omega
  exact numberText_fixed .zero digits nonempty value' finite

/-- The digits of a decimal are spelled, wherever its point is, unless that is very far off. -/
theorem numberText_chars (layout : Decimal.Layout) (value : nearest negative d = x) (finite : x.isFinite = true)
    (zero : d.digits = 0 → d.exponent = 0) (small : (d.point - 1).natAbs ≤ exponentLimit) :
    NumberText (minusChars negative ++ d.chars layout) (.float x) := by
  show NumberText (_ ++ if layout.large < d.point ∨ d.point ≤ layout.small then _
    else if 0 ≤ d.exponent then _ else if 0 < d.point then _ else _) _
  split
  case isTrue => exact numberText_far value finite small
  case isFalse =>
    split
    case isTrue whole => exact numberText_whole value finite zero whole
    case isFalse broken =>
      have nonzero : d.digits ≠ 0 := by
        intro none
        have := zero none
        omega
      split
      case isTrue above => exact numberText_split value finite nonzero (Int.not_le.1 broken) above
      case isFalse notAbove => exact numberText_below value finite (Int.not_lt.1 notAbove)

end Layouts

/-- **Floating-point numbers are spelled.** -/
theorem numberText_floatChars {x : Binary64} (finite : x.isFinite = true) : NumberText (floatChars x) (.float x) := by
  have value := Decimal.nearest_shortest finite
  unfold floatChars Binary64.chars
  rw [if_pos finite]
  cases zero : x.isZero with
  | true =>
    have none : Decimal.shortest x = { digits := 0, exponent := 0 } := if_pos zero
    refine numberText_chars layout value finite (fun _ => by rw [none]) ?_
    rw [none]
    decide
  | false =>
    obtain ⟨low, high⟩ := Decimal.point_bounds value finite zero
    refine numberText_chars layout value finite (fun none => ?_) ?_
    · rw [Decimal.nearest, if_pos none] at value
      rw [← value] at zero
      cases zero
    · unfold exponentLimit
      omega

end Numbers

section Strings

/-- A control without a letter of its own is told by its code. -/
theorem isUnit_control {c : Char} (control : c.toNat < 0x20) :
    IsUnit ['0', '0', hexDigit (c.toNat / 16), hexDigit c.toNat] c.toNat := by
  have all : ∀ n : Fin 0x20, hexUnit? ['0', '0', hexDigit (n.val / 16), hexDigit n.val] = some n.val := by decide
  exact ⟨rfl, all ⟨c.toNat, control⟩⟩

/-- A character is escaped so that it is read back. -/
theorem stringText_escaped (c : Char) {cs ds : List Char} (behind : StringText cs ds) :
    StringText (escaped c ++ cs) (c :: ds) := by
  have letter {c d : Char} (known : plainEscape? c = some d) : StringText (['\\', c] ++ cs) (d :: ds) := by
    have escape : EscapeText [c] d := .plain known
    exact .escape escape behind
  unfold escaped
  split_ifs with quote backslash backspace feed lineEnd carriage tab control
  · rw [quote]
    exact letter rfl
  · rw [backslash]
    exact letter rfl
  · rw [backspace]
    exact letter rfl
  · rw [feed]
    exact letter rfl
  · rw [lineEnd]
    exact letter rfl
  · rw [carriage]
    exact letter rfl
  · rw [tab]
    exact letter rfl
  · have code := EscapeText.code (isUnit_control control)
      (by simp only [isLowHalf, Bool.and_eq_false_imp, decide_eq_true_eq]; omega)
      (by simp only [isHighHalf, Bool.and_eq_false_imp, decide_eq_true_eq]; omega)
    rw [Char.ofNat_toNat] at code
    exact .escape code behind
  · exact .plain quote backslash (decide_eq_false control) behind

theorem stringText_flatMap (cs : List Char) : StringText (cs.flatMap escaped) cs := by
  induction cs with
  | nil => exact .nil
  | cons c cs ih => exact stringText_escaped c ih

end Strings

section Containers

/-- Texts with commas between them and a bracket behind them. -/
def joined (closer : Char) : List (List Char) → List Char
  | [] => [closer]
  | [cs] => cs ++ [closer]
  | cs :: rest => cs ++ ',' :: joined closer rest

/-- A field without blanks. -/
def compactField (field : String × Value) : List Char := stringChars field.1 ++ ':' :: compactChars field.2

theorem compactItems_eq_joined (items : List Value) : compactItems items = joined ']' (items.map compactChars) := by
  induction items with
  | nil => rfl
  | cons v rest ih =>
    cases rest with
    | nil => rfl
    | cons w rest => exact congrArg (fun cs => compactChars v ++ ',' :: cs) ih

theorem compactFields_eq_joined (fields : Fields) : compactFields fields = joined '\x7d' (fields.map compactField) := by
  induction fields with
  | nil => rfl
  | cons field rest ih =>
    obtain ⟨key, v⟩ := field
    cases rest with
    | nil =>
      show stringChars key ++ ':' :: compactChars v ++ ['\x7d'] = _
      rfl
    | cons next rest => exact congrArg (fun cs => stringChars key ++ ':' :: compactChars v ++ ',' :: cs) ih

/-- Texts of elements with commas between them are elements up to a closing bracket. -/
theorem itemsText_joined {α : Type} {Element : List Char → α → Prop} {text : α → List Char} {as : List α}
    (each : ∀ a ∈ as, Element (text a) a) (closer : Char) :
    ∃ inside, joined closer (as.map text) = inside ++ [closer] ∧ ItemsText Element true inside as := by
  have behind (a : α) (as : List α) (each : ∀ b ∈ as, Element (text b) b) :
      ∃ inside, joined closer ((a :: as).map text) = text a ++ (inside ++ [closer]) ∧
        ItemsText Element false inside as := by
    induction as generalizing a with
    | nil => exact ⟨[], rfl, .done blank_nil⟩
    | cons b as ih =>
      obtain ⟨here, later⟩ := List.forall_mem_cons.1 each
      obtain ⟨inside, same, items⟩ := ih b later
      refine ⟨[','] ++ (text b ++ inside), ?_, .more ⟨[], [], blank_nil, blank_nil, rfl⟩ here items⟩
      show text a ++ ',' :: joined closer ((b :: as).map text) = _
      rw [same]
      simp
  cases as with
  | nil => exact ⟨[], rfl, .done blank_nil⟩
  | cons a as =>
    obtain ⟨here, later⟩ := List.forall_mem_cons.1 each
    obtain ⟨inside, same, items⟩ := behind a as later
    exact ⟨[] ++ (text a ++ inside), by rw [same]; simp, .more blank_nil here items⟩

theorem fieldText_compactField {Element : List Char → Value → Prop} {field : String × Value}
    (element : Element (compactChars field.2) field.2) : FieldText Element (compactField field) field := by
  have text := FieldText.pair (stringText_flatMap field.1.toList) blank_nil blank_nil element
  have same : '"' :: (field.1.toList.flatMap escaped ++ '"' :: ([] ++ ':' :: ([] ++ compactChars field.2))) =
      compactField field := by
    rw [compactField, stringChars]
    simp
  rw [same, String.ofList_toList] at text
  exact text

/-- What holds from some depth on of each holds from some depth on of all. -/
theorem exists_depth {α : Type} {P : Nat → α → Prop}
    (mono : ∀ {depth deeper a}, depth ≤ deeper → P depth a → P deeper a)
    {as : List α} (each : ∀ a ∈ as, ∃ depth, P depth a) : ∃ depth, ∀ a ∈ as, P depth a := by
  induction as with
  | nil => exact ⟨0, nofun⟩
  | cons a as ih =>
    obtain ⟨⟨depth, here⟩, later⟩ := List.forall_mem_cons.1 each
    obtain ⟨depth', later⟩ := ih later
    refine ⟨Nat.max depth depth', List.forall_mem_cons.2 ⟨mono (Nat.le_max_left ..) here, fun b mem => ?_⟩⟩
    exact mono (Nat.le_max_right ..) (later b mem)

/-- A string is spelled within any containers. -/
theorem spells_string (depth : Nat) (s : String) : Spells depth (compactChars (.string s)) (.string s) := by
  have text : ValueText (fun _ _ => False) _ _ := .string (stringText_flatMap s.toList)
  rw [String.ofList_toList] at text
  exact Spells.mono (Nat.zero_le depth) text

/-- A list is spelled when its elements are. -/
theorem spells_array {depth : Nat} {items : List Value} (each : ∀ v ∈ items, Spells depth (compactChars v) v) :
    Spells (depth + 1) (compactChars (.array items)) (.array items) := by
  obtain ⟨inside, same, text⟩ := itemsText_joined each ']'
  rw [compactChars, compactItems_eq_joined, same]
  exact .container (.list text)

/-- An object is spelled when what stands under its keys is. -/
theorem spells_object {depth : Nat} {fields : Fields}
    (each : ∀ field ∈ fields, Spells depth (compactChars field.2) field.2) :
    Spells (depth + 1) (compactChars (.object fields)) (.object fields) := by
  obtain ⟨inside, same, text⟩ := itemsText_joined (fun field mem => fieldText_compactField (each field mem)) '\x7d'
  rw [compactChars, compactFields_eq_joined, same]
  exact .container (.object text)

end Containers

/-- The text of a value that nests no deeper than a text may is read as that value. -/
theorem asWritten_compact {v : Value} (spells : Spells nestingLimit (compactChars v) v) :
    asWritten v.compact = .ok v := by
  refine asWritten_eq_ok_iff.2 ⟨[], compactChars v, [], blank_nil, blank_nil, ?_, spells⟩
  rw [Value.compact, String.toList_ofList, List.append_nil, List.nil_append]

/-- **What is written spells the value**, at a depth that the value has. -/
theorem Value.Proper.exists_spells {v : Value} (proper : v.Proper) : ∃ depth, Spells depth (compactChars v) v := by
  induction proper with
  | null => exact ⟨0, .null⟩
  | bool b => exact ⟨0, .bool b⟩
  | int least most => exact ⟨0, .number (numberText_intChars least most)⟩
  | float finite => exact ⟨0, .number (numberText_floatChars finite)⟩
  | string s => exact ⟨0, spells_string 0 s⟩
  | @array items _ ih =>
    obtain ⟨depth, each⟩ := exists_depth (P := fun depth v => Spells depth (compactChars v) v)
      (fun le spells => spells.mono le) ih
    exact ⟨depth + 1, spells_array each⟩
  | @object fields _ _ ih =>
    obtain ⟨depth, each⟩ :=
      exists_depth (P := fun depth field => Spells depth (compactChars (Prod.snd field)) field.2)
        (fun le spells => spells.mono le) ih
    exact ⟨depth + 1, spells_object each⟩

end CanvasScript.Json
