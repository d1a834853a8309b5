import CanvasScript.Json.Reader
import CanvasScript.Json.Writer

/-!
# The grammar of JSON texts

Which characters spell a value, apart from where they stand. Blanks may stand between the
elements of containers and nowhere else. Escapes, strings, numbers and containers are each told
by their parts; `Spells depth` is about values with at most `depth` containers inside each
other, objects having their fields as they are written.
-/

namespace CanvasScript.Json

open Text (isAsciiDigit)

/-- Blanks and nothing else. -/
def Blank (cs : List Char) : Prop := ∀ c ∈ cs, Input.isSpace c = true

/-- Digits and nothing else. -/
def Digits (cs : List Char) : Prop := ∀ c ∈ cs, isAsciiDigit c = true

/-- Four hexadecimal digits and their number. -/
def IsUnit (cs : List Char) (n : Nat) : Prop := cs.length = 4 ∧ hexUnit? cs = some n

/-- What stands behind a backslash and the character that is meant. -/
inductive EscapeText : List Char → Char → Prop where
  | plain {c d : Char} (known : plainEscape? c = some d) : EscapeText [c] d
  | code {cs : List Char} {n : Nat} (unit : IsUnit cs n) (notLow : isLowHalf n = false)
    (notHigh : isHighHalf n = false) : EscapeText ('u' :: cs) (Char.ofNat n)
  | halves {cs ds : List Char} {high low : Nat} (unit : IsUnit cs high) (isHigh : isHighHalf high = true)
    (unit' : IsUnit ds low) (isLow : isLowHalf low = true) :
    EscapeText ('u' :: (cs ++ '\\' :: 'u' :: ds)) (joinHalves high low)

/-- What stands between quotes and the characters that are meant. -/
inductive StringText : List Char → List Char → Prop where
  | nil : StringText [] []
  | plain {c : Char} {cs ds : List Char} (notQuote : c ≠ '"') (notBackslash : c ≠ '\\')
    (notControl : isControl c = false) (behind : StringText cs ds) : StringText (c :: cs) (c :: ds)
  | escape {esc cs ds : List Char} {d : Char} (first : EscapeText esc d) (behind : StringText cs ds) :
    StringText ('\\' :: (esc ++ cs)) (d :: ds)

/-- A whole part has no leading zero. -/
inductive WholeText : List Char → Prop where
  | zero : WholeText ['0']
  | digits {c : Char} {cs : List Char} (digit : isAsciiDigit c = true) (notZero : c ≠ '0') (behind : Digits cs) :
    WholeText (c :: cs)

/-- A fraction or nothing. -/
inductive FractionText : List Char → Option (List Char) → Prop where
  | none : FractionText [] none
  | some {ds : List Char} (digits : Digits ds) (nonempty : ds ≠ []) : FractionText ('.' :: ds) (some ds)

/-- The sign of an exponent; without one it is not negative. -/
inductive SignText : List Char → Bool → Prop where
  | none : SignText [] false
  | plus : SignText ['+'] false
  | minus : SignText ['-'] true

/-- An exponent or nothing. -/
inductive ExponentText : List Char → Option Exponent → Prop where
  | none : ExponentText [] none
  | some {c : Char} {sign ds : List Char} {negative : Bool} (letter : c = 'e' ∨ c = 'E')
    (signed : SignText sign negative) (digits : Digits ds) (nonempty : ds ≠ []) :
    ExponentText (c :: (sign ++ ds)) (some { negative, digits := ds })

/-- The parts of a number are of a value, wherever they stand. -/
def Denotes (negative : Bool) (whole : List Char) (fraction? : Option (List Char)) (exponent? : Option Exponent)
    (v : Value) : Prop :=
  ∀ start input, numberOf negative whole fraction? (exponent?.map fun e => (e, start)) input = .ok v

/-- A minus sign or nothing. -/
def minusChars (negative : Bool) : List Char := if negative then ['-'] else []

/-- A number and its value. -/
inductive NumberText : List Char → Value → Prop where
  | parts {negative : Bool} {whole fraction exponent : List Char} {fraction? : Option (List Char)}
    {exponent? : Option Exponent} {v : Value} (isWhole : WholeText whole) (isFraction : FractionText fraction fraction?)
    (isExponent : ExponentText exponent exponent?) (denotes : Denotes negative whole fraction? exponent? v) :
    NumberText (minusChars negative ++ (whole ++ (fraction ++ exponent))) v

/-- What stands before an element: blanks, and a comma unless it is the first. -/
def Lead (first : Bool) (cs : List Char) : Prop :=
  if first then Blank cs else ∃ before after, Blank before ∧ Blank after ∧ cs = before ++ ',' :: after

/-- Elements up to a closing bracket. -/
inductive ItemsText (Element : List Char → α → Prop) : Bool → List Char → List α → Prop where
  | done {first : Bool} {gap : List Char} (blank : Blank gap) : ItemsText Element first gap []
  | more {first : Bool} {lead core cs : List Char} {a : α} {as : List α} (leads : Lead first lead)
    (element : Element core a) (behind : ItemsText Element false cs as) :
    ItemsText Element first (lead ++ (core ++ cs)) (a :: as)

/-- A field: its key in quotes, a colon and the value. -/
inductive FieldText (Element : List Char → α → Prop) : List Char → String × α → Prop where
  | pair {key keyMeant gap gap' core : List Char} {a : α} (isKey : StringText key keyMeant) (blank : Blank gap)
    (blank' : Blank gap') (element : Element core a) :
    FieldText Element ('"' :: (key ++ '"' :: (gap ++ ':' :: (gap' ++ core)))) (String.ofList keyMeant, a)

/-- A list or an object of elements. -/
inductive ContainerText (Element : List Char → Value → Prop) : List Char → Value → Prop where
  | list {cs : List Char} {items : List Value} (inside : ItemsText Element true cs items) :
    ContainerText Element ('[' :: (cs ++ [']'])) (.array items)
  | object {cs : List Char} {fields : Fields} (inside : ItemsText (FieldText Element) true cs fields) :
    ContainerText Element ('\x7b' :: (cs ++ ['\x7d'])) (.object fields)

/-- A value that is no container, or a container. -/
inductive ValueText (Container : List Char → Value → Prop) : List Char → Value → Prop where
  | null : ValueText Container ['n', 'u', 'l', 'l'] .null
  | bool (b : Bool) : ValueText Container (boolChars b) (.bool b)
  | string {cs ds : List Char} (inside : StringText cs ds) :
    ValueText Container ('"' :: (cs ++ ['"'])) (.string (String.ofList ds))
  | number {cs : List Char} {v : Value} (isNumber : NumberText cs v) : ValueText Container cs v
  | container {cs : List Char} {v : Value} (isContainer : Container cs v) : ValueText Container cs v

/-- The characters spell a value with at most `depth` containers inside each other. -/
def Spells : (depth : Nat) → List Char → Value → Prop
  | 0 => ValueText fun _ _ => False
  | depth + 1 => ValueText (ContainerText (Spells depth))

/-- Nothing here continues a number that ends before. -/
def Closed (cs : List Char) : Prop :=
  ∀ c rest, cs = c :: rest → isAsciiDigit c = false ∧ c ≠ '.' ∧ c ≠ 'e' ∧ c ≠ 'E'

/-- A value or a field starts with the character: it is no blank and closes nothing. -/
def Starts (c : Char) : Prop := Input.isSpace c = false ∧ c ≠ ']' ∧ c ≠ '\x7d'

section Shapes

variable {α : Type} {Element Other : List Char → α → Prop} {first : Bool} {cs : List Char} {as : List α}

theorem blank_nil : Blank [] := by nofun

theorem Blank.append {cs ds : List Char} (first : Blank cs) (second : Blank ds) : Blank (cs ++ ds) := by
  intro c mem
  exact (List.mem_append.1 mem).elim (first c) (second c)

/-- Blanks before an element belong to what stands before it. -/
theorem Lead.append {lead gap : List Char} (leads : Lead first lead) (blank : Blank gap) : Lead first (lead ++ gap) := by
  unfold Lead at leads ⊢
  cases first with
  | true => exact leads.append blank
  | false =>
    obtain ⟨before, after, blank_before, blank_after, rfl⟩ := leads
    exact ⟨before, after ++ gap, blank_before, blank_after.append blank, by simp⟩

theorem closed_nil : Closed [] := by nofun

theorem closed_cons {c : Char} (digit : isAsciiDigit c = false) (point : c ≠ '.') (small : c ≠ 'e') (large : c ≠ 'E')
    (rest : List Char) : Closed (c :: rest) := by
  rintro d ds ⟨⟩
  exact ⟨digit, point, small, large⟩

theorem Blank.closed {gap rest : List Char} (blank : Blank gap) (behind : Closed rest) : Closed (gap ++ rest) := by
  cases gap with
  | nil => exact behind
  | cons c gap =>
    have space := blank c List.mem_cons_self
    unfold Input.isSpace at space
    simp only [Bool.or_eq_true, beq_iff_eq] at space
    rcases space with ((rfl | rfl) | rfl) | rfl <;> exact closed_cons (by decide) (by decide) (by decide) (by decide) _

/-- What follows an element does not continue it. -/
theorem ItemsText.closed (items : ItemsText Element false cs as) {rest : List Char} (behind : Closed rest) :
    Closed (cs ++ rest) := by
  cases items with
  | done blank => exact blank.closed behind
  | more leads element later =>
    obtain ⟨before, after, blank, -, rfl⟩ := leads
    rw [List.append_assoc, List.append_assoc, List.cons_append]
    exact blank.closed (closed_cons (by decide) (by decide) (by decide) (by decide) _)

theorem ItemsText.imp (items : ItemsText Element first cs as) (each : ∀ core a, Element core a → Other core a) :
    ItemsText Other first cs as := by
  induction items with
  | done blank => exact .done blank
  | more leads element behind ih => exact .more leads (each _ _ element) ih

theorem ItemsText.exists_of_mem (items : ItemsText Element first cs as) {a : α} (mem : a ∈ as) :
    ∃ core, Element core a := by
  induction items with
  | done blank => cases mem
  | more leads element behind ih =>
    rcases List.mem_cons.1 mem with rfl | later
    · exact ⟨_, element⟩
    · exact ih later

/-- Every element takes a character. -/
theorem ItemsText.length_le (items : ItemsText Element first cs as) (each : ∀ core a, Element core a → core ≠ []) :
    as.length ≤ cs.length := by
  induction items with
  | done blank => exact Nat.zero_le _
  | more leads element behind ih =>
    have taken := List.length_pos_iff.2 (each _ _ element)
    rw [List.length_cons, List.length_append, List.length_append]
    omega

/-- There are more characters from the opening bracket on than there are elements. -/
theorem ItemsText.length_lt (items : ItemsText Element first cs as) (each : ∀ core a, Element core a → core ≠ [])
    (opener closer : Char) (rest : List Char) : as.length < (opener :: (cs ++ closer :: rest)).length := by
  have few := items.length_le each
  rw [List.length_cons, List.length_append]
  omega

/-- A field starts with the quote that opens its key. -/
theorem FieldText.exists_head {field : String × α} (text : FieldText Element cs field) : ∃ tail, cs = '"' :: tail := by
  cases text
  exact ⟨_, rfl⟩

theorem FieldText.ne_nil {field : String × α} (text : FieldText Element cs field) : cs ≠ [] := by
  obtain ⟨tail, rfl⟩ := text.exists_head
  exact List.cons_ne_nil _ tail

end Shapes

section Heads

instance (c : Char) : Decidable (Starts c) := inferInstanceAs (Decidable (_ ∧ _ ∧ _))

/-- What holds of the ten digits holds of every digit. -/
theorem forall_digit {P : Char → Prop} (each : ∀ n : Fin 10, P (Char.ofNat ('0'.toNat + n))) {c : Char}
    (digit : isAsciiDigit c = true) : P c := by
  unfold isAsciiDigit at digit
  simp only [Bool.and_eq_true, decide_eq_true_eq] at digit
  have lower : '0'.toNat ≤ c.toNat := digit.1
  have upper : c.toNat ≤ '0'.toNat + 9 := digit.2
  have here := each ⟨c.toNat - '0'.toNat, by omega⟩
  rwa [show '0'.toNat + (c.toNat - '0'.toNat) = c.toNat by omega, Char.ofNat_toNat] at here

theorem WholeText.exists_digit {cs : List Char} (whole : WholeText cs) :
    ∃ c rest, cs = c :: rest ∧ isAsciiDigit c = true := by
  cases whole with
  | zero => exact ⟨'0', [], rfl, by decide⟩
  | digits digit _ _ => exact ⟨_, _, rfl, digit⟩

theorem NumberText.exists_head {cs : List Char} {v : Value} (number : NumberText cs v) :
    ∃ c rest, cs = c :: rest ∧ startsNumber c = true := by
  cases number with
  | @parts negative whole fraction exponent _ _ _ isWhole _ _ _ =>
    cases negative with
    | true => exact ⟨'-', _, rfl, by decide⟩
    | false =>
      obtain ⟨c, rest, rfl, digit⟩ := isWhole.exists_digit
      exact ⟨c, _, rfl, by rw [startsNumber, digit, Bool.or_true]⟩

theorem starts_of_startsNumber {c : Char} (starts : startsNumber c = true) : Starts c := by
  rw [startsNumber, Bool.or_eq_true, beq_iff_eq] at starts
  rcases starts with rfl | digit
  · decide
  · exact forall_digit (by decide) digit

theorem ContainerText.exists_head {Element : List Char → Value → Prop} {cs : List Char} {v : Value}
    (container : ContainerText Element cs v) : ∃ c rest, cs = c :: rest ∧ (c = '[' ∨ c = '\x7b') := by
  cases container with
  | list _ => exact ⟨_, _, rfl, .inl rfl⟩
  | object _ => exact ⟨_, _, rfl, .inr rfl⟩

theorem Spells.exists_head {depth : Nat} {cs : List Char} {v : Value} (spells : Spells depth cs v) :
    ∃ c rest, cs = c :: rest ∧ Starts c := by
  have head {Container : List Char → Value → Prop} (text : ValueText Container cs v)
      (opens : Container cs v → ∃ c rest, cs = c :: rest ∧ Starts c) : ∃ c rest, cs = c :: rest ∧ Starts c := by
    cases text with
    | null => exact ⟨_, _, rfl, by decide⟩
    | bool b => cases b <;> exact ⟨_, _, rfl, by decide⟩
    | string _ => exact ⟨_, _, rfl, by decide⟩
    | number isNumber =>
      obtain ⟨c, rest, rfl, starts⟩ := isNumber.exists_head
      exact ⟨c, rest, rfl, starts_of_startsNumber starts⟩
    | container isContainer => exact opens isContainer
  cases depth with
  | zero => exact head spells False.elim
  | succ depth =>
    refine head spells fun isContainer => ?_
    obtain ⟨c, rest, same, rfl | rfl⟩ := isContainer.exists_head
    · exact ⟨_, rest, same, by decide⟩
    · exact ⟨_, rest, same, by decide⟩

end Heads

/-- A value that stands within fewer containers stands within more. -/
theorem Spells.succ {depth : Nat} {cs : List Char} {v : Value} (spells : Spells depth cs v) :
    Spells (depth + 1) cs v := by
  have widen {Container Other : List Char → Value → Prop} {cs : List Char} {v : Value}
      (text : ValueText Container cs v) (each : Container cs v → Other cs v) : ValueText Other cs v := by
    cases text with
    | null => exact .null
    | bool b => exact .bool b
    | string inside => exact .string inside
    | number isNumber => exact .number isNumber
    | container isContainer => exact .container (each isContainer)
  induction depth generalizing cs v with
  | zero => exact widen spells False.elim
  | succ depth ih =>
    refine widen spells fun isContainer => ?_
    cases isContainer with
    | list inside => exact .list (inside.imp fun _ _ => ih)
    | object inside =>
      refine .object (inside.imp fun core field pair => ?_)
      cases pair with
      | pair isKey blank blank' element => exact .pair isKey blank blank' (ih element)

theorem Spells.mono {depth deeper : Nat} (le : depth ≤ deeper) {cs : List Char} {v : Value}
    (spells : Spells depth cs v) : Spells deeper cs v := by
  induction le with
  | refl => exact spells
  | step _ ih => exact ih.succ

end CanvasScript.Json
