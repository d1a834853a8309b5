import CanvasScript.Proofs.Json.Numbers

/-!
# Values are read as they are written

Lists and objects are read by one loop, which differs in how it finds the next element
(`loop`). What the loop reads are the elements that the grammar has (`loop_sound`,
`loop_complete`), so a value is read just when it is spelled (`value_sound`, `value_complete`),
and a text spells one value at most (`Spells.unique`).
-/

namespace CanvasScript.Json

open Outcome (bind_eq_ok_iff)

variable {α : Type} {cs rest : List Char} {input after : Input} {place : Place}

/-- The elements that a way to find the next one leads to. -/
def loop (next : Bool → Input → Except Mistake (Bool × Input)) (unclosed : Cause) (element : Reader α) :
    (fuel : Nat) → (first : Bool) → (read : List α) → Reader (List α)
  | 0, _, _, input => input.failAhead unclosed
  | fuel + 1, first, read, input => do
    let (more, input) ← next first input
    if more then
      let (a, input) ← element input
      loop next unclosed element fuel false (a :: read) input
    else return (read.reverse, input)

/-- A field, at the quote that opens its key. -/
def field (element : Reader α) : Reader (String × α) := fun input => do
  let (key, input) ← string input.tail
  let (a, input) ← element (← colon input)
  return ((key, a), input)

theorem items_eq_loop (element : Reader α) : items element = loop nextItem .endInList element := by
  funext fuel
  induction fuel with
  | zero => rfl
  | succ fuel ih =>
    funext first read input
    simp only [items, loop, ih]

theorem members_eq_loop (element : Reader α) : members element = loop nextMember .endInObject (field element) := by
  funext fuel
  induction fuel with
  | zero => rfl
  | succ fuel ih =>
    funext first read input
    simp only [members, loop, ih, field, bind_assoc, pure_bind]

/-- A reader reads what it is to read, behind blanks. -/
def Sound (starts : List Char → Prop) (reader : Reader α) (Text : List Char → α → Prop) : Prop :=
  ∀ ⦃input : Input⦄ ⦃a : α⦄ ⦃after : Input⦄, starts input.rest → reader input = .ok (a, after) →
    ∃ gap core, Blank gap ∧ input.rest = gap ++ (core ++ after.rest) ∧ Text core a

/-- A reader reads all that it is to read, behind blanks. -/
def Complete (reader : Reader α) (Text : List Char → α → Prop) : Prop :=
  ∀ ⦃gap core rest : List Char⦄ ⦃a : α⦄, Blank gap → Text core a → Closed rest → ∀ place,
    Gives (reader { rest := gap ++ (core ++ rest), place }) a rest

/-- How the next element is found: behind its lead or, if there is none, before the closing
bracket. -/
structure Finds (next : Bool → Input → Except Mistake (Bool × Input)) (closer : Char)
    (starts : List Char → Prop) : Prop where
  more_sound {first : Bool} {input after : Input} : next first input = .ok (true, after) →
    starts after.rest ∧ ∃ lead, Lead first lead ∧ input.rest = lead ++ after.rest
  done_sound {first : Bool} {input after : Input} : next first input = .ok (false, after) →
    ∃ gap tail, Blank gap ∧ input.rest = gap ++ after.rest ∧ after.rest = closer :: tail
  more_complete {first : Bool} {lead cs : List Char} {c : Char} : Lead first lead → Starts c → starts (c :: cs) →
    ∀ place, Gives (next first { rest := lead ++ c :: cs, place }) true (c :: cs)
  done_complete {first : Bool} {gap rest : List Char} : Blank gap →
    ∀ place, Gives (next first { rest := gap ++ closer :: rest, place }) false (closer :: rest)
  closed (rest : List Char) : Closed (closer :: rest)

section Loops

variable {next : Bool → Input → Except Mistake (Bool × Input)} {closer : Char} {starts : List Char → Prop}
  {unclosed : Cause} {element : Reader α} {Text : List Char → α → Prop} {first : Bool}

theorem loop_sound (finds : Finds next closer starts) (sound : Sound starts element Text) {fuel : Nat}
    {read as : List α} (reads : loop next unclosed element fuel first read input = .ok (as, after)) :
    ∃ inside bs tail, input.rest = inside ++ after.rest ∧ after.rest = closer :: tail ∧ as = read.reverse ++ bs ∧
      ItemsText Text first inside bs := by
  induction fuel generalizing first read input with
  | zero => cases reads
  | succ fuel ih =>
    rw [loop] at reads
    obtain ⟨⟨more, here⟩, found, behind⟩ := bind_eq_ok_iff.1 reads
    cases more with
    | false =>
      obtain ⟨rfl, rfl⟩ := Prod.mk.inj (Except.ok.inj behind)
      obtain ⟨gap, tail, blank, split, closes⟩ := finds.done_sound found
      exact ⟨gap, [], tail, split, closes, (List.append_nil _).symm, .done blank⟩
    | true =>
      obtain ⟨⟨a, last⟩, element_reads, behind⟩ := bind_eq_ok_iff.1 behind
      obtain ⟨start, lead, leads, split⟩ := finds.more_sound found
      obtain ⟨gap, core, blank, split', text⟩ := sound start element_reads
      obtain ⟨inside, bs, tail, split'', closes, rfl, items⟩ := ih behind
      refine ⟨lead ++ gap ++ (core ++ inside), a :: bs, tail, ?_, closes, ?_, .more (leads.append blank) text items⟩
      · rw [split, split', split'']
        simp only [List.append_assoc]
      · rw [List.reverse_cons, List.append_assoc]
        rfl

theorem loop_complete (finds : Finds next closer starts)
    (complete : ∀ {core rest a}, Text core a → Closed rest →
      ∀ place, Gives (element { rest := core ++ rest, place }) a rest)
    (head : ∀ {core a}, Text core a →
      ∃ c tail, core = c :: tail ∧ Starts c ∧ ∀ rest, starts (c :: (tail ++ rest)))
    {as : List α} (items : ItemsText Text first cs as) {fuel : Nat} (enough : as.length < fuel) (read : List α)
    (rest : List Char) (place : Place) :
    Gives (loop next unclosed element fuel first read { rest := cs ++ closer :: rest, place }) (read.reverse ++ as)
      (closer :: rest) := by
  induction items generalizing fuel read place with
  | @done first gap blank =>
    obtain ⟨fuel, rfl⟩ := Nat.exists_eq_succ_of_ne_zero (Nat.ne_of_gt enough)
    rw [loop, List.append_nil]
    exact (finds.done_complete blank place).bind fun place => ⟨place, rfl⟩
  | @more first lead core cs a as leads text behind ih =>
    obtain ⟨fuel, rfl⟩ := Nat.exists_eq_succ_of_ne_zero (Nat.ne_of_gt (Nat.zero_lt_of_lt enough))
    obtain ⟨c, tail, rfl, starts_c, start⟩ := head text
    rw [loop, List.append_assoc, List.append_assoc]
    refine (finds.more_complete leads starts_c (start _) place).bind fun place => ?_
    have closed : Closed (cs ++ closer :: rest) := behind.closed (finds.closed rest)
    refine (complete text closed place).bind fun place => ?_
    have here := ih (Nat.lt_of_succ_lt_succ enough) (a :: read) place
    rw [List.reverse_cons, List.append_assoc] at here
    exact here

end Loops

section Finding

/-- Nothing is asked of the start of an element of a list. -/
def Anything (_ : List Char) : Prop := True

/-- A field starts with the quote that opens its key. -/
def Quoted (cs : List Char) : Prop := ∃ tail, cs = '"' :: tail

theorem rest_tail {input : Input} {c : Char} {tail : List Char} (split : input.rest = c :: tail) :
    input.tail.rest = tail := by
  obtain ⟨rest, place⟩ := input
  obtain rfl : rest = c :: tail := split
  rfl

/-- What is left behind a comma and blanks. -/
theorem lead_of_comma {input : Input} {c : Char} {tail : List Char} (split : input.skipSpaces.rest = c :: tail)
    (comma : c = ',') : ∃ lead, Lead false lead ∧ input.rest = lead ++ input.skipSpaces.tail.skipSpaces.rest := by
  obtain ⟨gap, blank, same, -⟩ := exists_of_skipSpaces input
  obtain ⟨gap', blank', same', -⟩ := exists_of_skipSpaces input.skipSpaces.tail
  refine ⟨gap ++ ',' :: gap', ⟨gap, gap', blank, blank', rfl⟩, ?_⟩
  rw [same, split, comma, ← rest_tail split, same', List.append_assoc, List.cons_append]

/-- What stands behind a comma and blanks is reached. -/
theorem exists_behind_comma {gap gap' : List Char} (blank : Blank gap) (blank' : Blank gap') {c : Char}
    (space : Input.isSpace c = false) (tail : List Char) (place : Place) :
    ∃ after last, Input.skipSpaces { rest := gap ++ ',' :: (gap' ++ c :: tail), place } =
        { rest := ',' :: (gap' ++ c :: tail), place := after } ∧
      (Input.tail { rest := ',' :: (gap' ++ c :: tail), place := after }).skipSpaces =
        { rest := c :: tail, place := last } := by
  obtain ⟨after, skipped⟩ := skipSpaces_cons blank (c := ',') (by decide) (gap' ++ c :: tail) place
  obtain ⟨last, skipped'⟩ := skipSpaces_cons blank' space tail (after.over ',')
  exact ⟨after, last, skipped, skipped'⟩

theorem finds_nextItem : Finds nextItem ']' Anything where
  more_sound := by
    intro first input after found
    refine ⟨trivial, ?_⟩
    obtain ⟨gap, blank, same, -⟩ := exists_of_skipSpaces input
    unfold nextItem at found
    simp only at found
    split at found
    case h_1 => cases found
    case h_2 => cases found
    case h_3 c tail _ split =>
      split at found
      case isTrue isFirst =>
        cases found
        subst isFirst
        exact ⟨gap, blank, same⟩
      case isFalse notFirst =>
        split at found
        case isTrue comma =>
          split at found
          case h_1 => cases found
          case h_2 => cases found
          case h_3 =>
            cases found
            rw [Bool.eq_false_iff.2 notFirst]
            exact lead_of_comma split comma
        case isFalse => cases found
  done_sound := by
    intro first input after found
    obtain ⟨gap, blank, same, -⟩ := exists_of_skipSpaces input
    unfold nextItem at found
    simp only at found
    split at found
    case h_1 => cases found
    case h_2 tail split =>
      cases found
      exact ⟨gap, tail, blank, same, split⟩
    case h_3 =>
      split at found
      case isTrue => cases found
      case isFalse =>
        split at found
        case isTrue => split at found <;> cases found
        case isFalse => cases found
  more_complete := by
    intro first lead cs c leads starts _ place
    cases first with
    | true =>
      obtain ⟨after, skipped⟩ := skipSpaces_cons leads starts.1 cs place
      unfold nextItem
      rw [skipped]
      simp only
      split
      case h_1 empty => cases empty
      case h_2 closing => exact absurd (List.cons.inj closing).1 starts.2.1
      case h_3 => exact ⟨after, rfl⟩
    | false =>
      obtain ⟨gap, gap', blank, blank', rfl⟩ := leads
      obtain ⟨after, last, skipped, skipped'⟩ := exists_behind_comma blank blank' starts.1 cs place
      unfold nextItem
      rw [List.append_assoc, List.cons_append, skipped]
      simp only [Bool.false_eq_true, if_false, skipped']
      split
      case h_1 empty => cases empty
      case h_2 closing => exact absurd (List.cons.inj closing).1 (by decide)
      case h_3 d _ _ comma =>
        rw [if_pos (List.cons.inj comma).1.symm]
        split
        case h_1 empty => cases empty
        case h_2 closing => exact absurd (List.cons.inj closing).1 starts.2.1
        case h_3 => exact ⟨last, rfl⟩
  done_complete := by
    intro first gap rest blank place
    obtain ⟨after, skipped⟩ := skipSpaces_cons blank (c := ']') (by decide) rest place
    unfold nextItem
    rw [skipped]
    exact ⟨after, rfl⟩
  closed := fun rest => closed_cons (by decide) (by decide) (by decide) (by decide) rest

theorem finds_nextMember : Finds nextMember '\x7d' Quoted where
  more_sound := by
    intro first input after found
    obtain ⟨gap, blank, same, -⟩ := exists_of_skipSpaces input
    unfold nextMember at found
    simp only at found
    split at found
    case h_1 => cases found
    case h_2 => cases found
    case h_3 c tail _ split =>
      split at found
      case isTrue isFirst =>
        split at found
        case isTrue quote =>
          cases found
          subst isFirst
          exact ⟨⟨tail, quote ▸ split⟩, gap, blank, same⟩
        case isFalse => cases found
      case isFalse notFirst =>
        split at found
        case isTrue comma =>
          split at found
          case h_1 => cases found
          case h_2 rest split' =>
            cases found
            rw [Bool.eq_false_iff.2 notFirst]
            exact ⟨⟨rest, split'⟩, lead_of_comma split comma⟩
          case h_3 => cases found
          case h_4 => cases found
        case isFalse => cases found
  done_sound := by
    intro first input after found
    obtain ⟨gap, blank, same, -⟩ := exists_of_skipSpaces input
    unfold nextMember at found
    simp only at found
    split at found
    case h_1 => cases found
    case h_2 tail split =>
      cases found
      exact ⟨gap, tail, blank, same, split⟩
    case h_3 =>
      split at found
      case isTrue => split at found <;> cases found
      case isFalse =>
        split at found
        case isTrue => split at found <;> cases found
        case isFalse => cases found
  more_complete := by
    rintro first lead cs c leads starts ⟨tail, quote⟩ place
    obtain ⟨rfl, rfl⟩ := List.cons.inj quote
    cases first with
    | true =>
      obtain ⟨after, skipped⟩ := skipSpaces_cons leads starts.1 cs place
      unfold nextMember
      rw [skipped]
      exact ⟨after, rfl⟩
    | false =>
      obtain ⟨gap, gap', blank, blank', rfl⟩ := leads
      obtain ⟨after, last, skipped, skipped'⟩ := exists_behind_comma blank blank' starts.1 cs place
      unfold nextMember
      rw [List.append_assoc, List.cons_append, skipped]
      simp only [Bool.false_eq_true, if_false, skipped']
      exact ⟨last, rfl⟩
  done_complete := by
    intro first gap rest blank place
    obtain ⟨after, skipped⟩ := skipSpaces_cons blank (c := '\x7d') (by decide) rest place
    unfold nextMember
    rw [skipped]
    exact ⟨after, rfl⟩
  closed := fun rest => closed_cons (by decide) (by decide) (by decide) (by decide) rest

end Finding

section Fields

variable {element : Reader α} {Text : List Char → α → Prop}

theorem colon_sound (reads : colon input = .ok after) :
    ∃ gap, Blank gap ∧ input.rest = gap ++ ':' :: after.rest := by
  obtain ⟨gap, blank, same, -⟩ := exists_of_skipSpaces input
  unfold colon at reads
  simp only at reads
  split at reads
  case h_1 => cases reads
  case h_2 tail split =>
    cases reads
    refine ⟨gap, blank, ?_⟩
    rw [rest_tail split, ← split]
    exact same
  case h_3 => cases reads

theorem colon_complete {gap : List Char} (blank : Blank gap) (rest : List Char) (place : Place) :
    Leaves (colon { rest := gap ++ ':' :: rest, place }) rest := by
  obtain ⟨after, skipped⟩ := skipSpaces_cons blank (c := ':') (by decide) rest place
  unfold colon
  rw [skipped]
  exact ⟨_, rfl⟩

theorem field_sound (sound : Sound Anything element Text) : Sound Quoted (field element) (FieldText Text) := by
  rintro input ⟨key, a⟩ after ⟨tail, quote⟩ reads
  unfold field at reads
  obtain ⟨⟨keyRead, second⟩, keyed, behind⟩ := bind_eq_ok_iff.1 reads
  obtain ⟨third, coloned, behind⟩ := bind_eq_ok_iff.1 behind
  obtain ⟨⟨b, last⟩, valued, done⟩ := bind_eq_ok_iff.1 behind
  obtain ⟨pair, rfl⟩ := Prod.mk.inj (Except.ok.inj done)
  obtain ⟨rfl, rfl⟩ := Prod.mk.inj pair
  obtain ⟨body, ds, split, isKey, rfl⟩ := string_sound keyed
  obtain ⟨gap, blank, split'⟩ := colon_sound coloned
  obtain ⟨gap', core, blank', split'', text⟩ := sound trivial valued
  refine ⟨[], _, blank_nil, ?_, .pair isKey blank blank' text⟩
  rw [quote, ← rest_tail quote, split, split', split'']
  simp

theorem field_complete (complete : Complete element Text) {core : List Char} {pair : String × α}
    (text : FieldText Text core pair) (closed : Closed rest) (place : Place) :
    Gives (field element { rest := core ++ rest, place }) pair rest := by
  cases text with
  | @pair key keyMeant gap gap' core a isKey blank blank' inside =>
    unfold field
    simp only [List.cons_append, List.append_assoc]
    refine (string_complete isKey _ _).bind fun place => ?_
    refine (colon_complete blank _ place).bind fun place => ?_
    exact (complete blank' inside closed place).bind fun place => ⟨place, rfl⟩

end Fields

section Containers

variable {element : Reader α} {Text : List Char → α → Prop}

theorem list_sound (sound : Sound Anything element Text) {as : List α} (reads : list element input = .ok (as, after)) :
    ∃ inside, input.tail.rest = inside ++ ']' :: after.rest ∧ ItemsText Text true inside as := by
  unfold list at reads
  rw [items_eq_loop] at reads
  obtain ⟨⟨bs, last⟩, looped, behind⟩ := bind_eq_ok_iff.1 reads
  obtain ⟨ended, ends, done⟩ := bind_eq_ok_iff.1 behind
  obtain ⟨rfl, rfl⟩ := Prod.mk.inj (Except.ok.inj done)
  obtain ⟨inside, cs, closing, split, closes, rfl, items⟩ := loop_sound finds_nextItem sound looped
  obtain ⟨rest, place⟩ := last
  obtain rfl : rest = ']' :: closing := closes
  cases ends
  exact ⟨inside, split, items⟩

theorem list_complete (complete : Complete element Text)
    (head : ∀ {core a}, Text core a → ∃ c tail, core = c :: tail ∧ Starts c) {as : List α} {inside : List Char}
    (items : ItemsText Text true inside as) (rest : List Char) (place : Place) :
    Gives (list element { rest := '[' :: (inside ++ ']' :: rest), place }) as rest := by
  have enough := items.length_lt (fun core a text => by
    obtain ⟨c, tail, rfl, -⟩ := head text
    exact List.cons_ne_nil c tail) '[' ']' rest
  unfold list
  rw [items_eq_loop]
  refine (loop_complete finds_nextItem (fun text closed => complete blank_nil text closed)
    (fun text => ?_) items enough [] rest _).bind fun place => ⟨_, rfl⟩
  obtain ⟨c, tail, same, starts⟩ := head text
  exact ⟨c, tail, same, starts, fun _ => trivial⟩

theorem object_sound (sound : Sound Anything element Text) {pairs : List (String × α)}
    (reads : object element input = .ok (pairs, after)) :
    ∃ inside, input.tail.rest = inside ++ '\x7d' :: after.rest ∧ ItemsText (FieldText Text) true inside pairs := by
  unfold object at reads
  rw [members_eq_loop] at reads
  obtain ⟨⟨bs, last⟩, looped, behind⟩ := bind_eq_ok_iff.1 reads
  obtain ⟨ended, ends, done⟩ := bind_eq_ok_iff.1 behind
  obtain ⟨rfl, rfl⟩ := Prod.mk.inj (Except.ok.inj done)
  obtain ⟨inside, cs, closing, split, closes, rfl, items⟩ :=
    loop_sound finds_nextMember (field_sound sound) looped
  obtain ⟨rest, place⟩ := last
  obtain rfl : rest = '\x7d' :: closing := closes
  cases ends
  exact ⟨inside, split, items⟩

theorem object_complete (complete : Complete element Text) {pairs : List (String × α)} {inside : List Char}
    (items : ItemsText (FieldText Text) true inside pairs) (rest : List Char) (place : Place) :
    Gives (object element { rest := '\x7b' :: (inside ++ '\x7d' :: rest), place }) pairs rest := by
  have enough := items.length_lt (fun _ _ text => text.ne_nil) '\x7b' '\x7d' rest
  unfold object
  rw [members_eq_loop]
  refine (loop_complete finds_nextMember (field_complete complete) (fun text => ?_) items enough [] rest _).bind
    fun place => ⟨_, rfl⟩
  obtain ⟨tail, same⟩ := text.exists_head
  exact ⟨'"', tail, same, by decide, fun rest => ⟨tail ++ rest, rfl⟩⟩

end Containers

section Values

variable {Container : List Char → Value → Prop}

/-- Blanks before a value are passed over. -/
theorem valueWith_skip (container : Char → Reader Value) {gap : List Char} (blank : Blank gap) {c : Char} (starts : Starts c) (tail : List Char)
    (place : Place) : ∃ after, valueWith container { rest := gap ++ c :: tail, place } =
      valueWith container { rest := c :: tail, place := after } := by
  obtain ⟨after, skipped⟩ := skipSpaces_cons blank starts.1 tail place
  refine ⟨after, ?_⟩
  unfold valueWith
  rw [skipped, skipSpaces_of_cons starts.1]

/-- A number starts like no other value. -/
theorem valueWith_number {container : Char → Reader Value} {c : Char} (starts : startsNumber c = true) (tail : List Char) (place : Place) :
    valueWith container { rest := c :: tail, place } = number { rest := c :: tail, place } := by
  unfold valueWith
  rw [skipSpaces_of_cons (starts_of_startsNumber starts).1]
  simp only
  split
  case h_1 empty => cases empty
  case h_6 d _ _ _ _ _ here =>
    obtain rfl := (List.cons.inj here).1
    rw [if_pos starts]
  all_goals
    rename_i here
    obtain rfl := (List.cons.inj here).1
    cases starts

theorem valueWith_complete {container : Char → Reader Value}
    (head : ∀ {core v}, Container core v → ∃ c tail, core = c :: tail ∧ (c = '[' ∨ c = '\x7b'))
    (complete : ∀ {c tail v}, Container (c :: tail) v → ∀ rest place,
      Gives (container c { rest := c :: (tail ++ rest), place }) v rest) :
    Complete (valueWith container) (ValueText Container) := by
  intro gap core rest v blank text closed place
  cases text with
  | null =>
    obtain ⟨after, skipped⟩ := valueWith_skip container blank (by decide : Starts 'n')
      ('u' :: 'l' :: 'l' :: rest) place
    show Gives (valueWith container { rest := gap ++ 'n' :: 'u' :: 'l' :: 'l' :: rest, place }) _ _
    rw [skipped]
    exact (word_complete ['n', 'u', 'l', 'l'] rest after).map Value.null
  | bool b =>
    cases b with
    | true =>
      obtain ⟨after, skipped⟩ := valueWith_skip container blank (by decide : Starts 't')
        ('r' :: 'u' :: 'e' :: rest) place
      show Gives (valueWith container { rest := gap ++ 't' :: 'r' :: 'u' :: 'e' :: rest, place }) _ _
      rw [skipped]
      exact (word_complete ['t', 'r', 'u', 'e'] rest after).map (Value.bool true)
    | false =>
      obtain ⟨after, skipped⟩ := valueWith_skip container blank (by decide : Starts 'f')
        ('a' :: 'l' :: 's' :: 'e' :: rest) place
      show Gives (valueWith container { rest := gap ++ 'f' :: 'a' :: 'l' :: 's' :: 'e' :: rest, place }) _ _
      rw [skipped]
      exact (word_complete ['f', 'a', 'l', 's', 'e'] rest after).map (Value.bool false)
  | @string cs ds inside =>
    obtain ⟨after, skipped⟩ := valueWith_skip container blank (by decide : Starts '"')
      (cs ++ '"' :: rest) place
    rw [List.cons_append, List.append_assoc, List.singleton_append, skipped]
    exact (string_complete inside rest (after.over '"')).bind fun place => ⟨place, rfl⟩
  | number isNumber =>
    obtain ⟨c, tail, rfl, starts⟩ := isNumber.exists_head
    obtain ⟨after, skipped⟩ := valueWith_skip container blank (starts_of_startsNumber starts)
      (tail ++ rest) place
    rw [List.cons_append, skipped, valueWith_number starts]
    exact number_complete isNumber closed after
  | container isContainer =>
    obtain ⟨c, tail, rfl, opens⟩ := head isContainer
    have starts : Starts c := by
      rcases opens with rfl | rfl <;> decide
    obtain ⟨after, skipped⟩ := valueWith_skip container blank starts (tail ++ rest) place
    have here := complete isContainer rest after
    rw [List.cons_append, skipped]
    rcases opens with rfl | rfl <;> exact here

theorem valueWith_sound {container : Char → Reader Value}
    (sound : ∀ {c tail place v after}, c = '[' ∨ c = '\x7b' →
      container c { rest := c :: tail, place } = .ok (v, after) →
        ∃ core, c :: tail = core ++ after.rest ∧ Container core v) :
    Sound Anything (valueWith container) (ValueText Container) := by
  intro input v after _ reads
  obtain ⟨gap, blank, same, -⟩ := exists_of_skipSpaces input
  unfold valueWith at reads
  simp only at reads
  generalize input.skipSpaces = start at reads same
  obtain ⟨rest, place⟩ := start
  have same : input.rest = gap ++ rest := same
  suffices ∃ core, rest = core ++ after.rest ∧ ValueText Container core v by
    obtain ⟨core, split, text⟩ := this
    exact ⟨gap, core, blank, by rw [same, split], text⟩
  split at reads
  case h_1 => cases reads
  case h_2 =>
    obtain ⟨last, worded, done⟩ := bind_eq_ok_iff.1 reads
    obtain ⟨rfl, rfl⟩ := Prod.mk.inj (Except.ok.inj done)
    exact ⟨_, word_sound worded, .null⟩
  case h_3 =>
    obtain ⟨last, worded, done⟩ := bind_eq_ok_iff.1 reads
    obtain ⟨rfl, rfl⟩ := Prod.mk.inj (Except.ok.inj done)
    exact ⟨_, word_sound worded, .bool true⟩
  case h_4 =>
    obtain ⟨last, worded, done⟩ := bind_eq_ok_iff.1 reads
    obtain ⟨rfl, rfl⟩ := Prod.mk.inj (Except.ok.inj done)
    exact ⟨_, word_sound worded, .bool false⟩
  case h_5 tail quote =>
    obtain ⟨⟨s, last⟩, stringed, done⟩ := bind_eq_ok_iff.1 reads
    obtain ⟨rfl, rfl⟩ := Prod.mk.inj (Except.ok.inj done)
    obtain rfl : rest = '"' :: tail := quote
    obtain ⟨body, ds, split, text, rfl⟩ := string_sound stringed
    have split : tail = body ++ '"' :: last.rest := split
    exact ⟨'"' :: (body ++ ['"']), by rw [split]; simp, .string text⟩
  case h_6 c tail _ _ _ _ here =>
    obtain rfl : rest = c :: tail := here
    split at reads
    case isTrue =>
      obtain ⟨core, split, text, -⟩ := number_sound reads
      exact ⟨core, split, .number text⟩
    case isFalse =>
      split at reads
      case isTrue opens =>
        obtain ⟨core, split, text⟩ := sound opens reads
        exact ⟨core, split, .container text⟩
      case isFalse => cases reads

end Values

theorem valueAsWritten_zero : valueAsWritten 0 = valueWith fun _ input => input.failAhead .nestingLimit := rfl

theorem valueAsWritten_succ (depth : Nat) :
    valueAsWritten (depth + 1) = valueWith fun c input => do
      if c = '[' then
        let (read, input) ← list (valueAsWritten depth) input
        return (.array read, input)
      else
        let (read, input) ← object (valueAsWritten depth) input
        return (.object read, input) := rfl

/-- **What is read is spelled**, behind blanks. -/
theorem value_sound (depth : Nat) : Sound Anything (valueAsWritten depth) (Spells depth) := by
  induction depth with
  | zero =>
    rw [valueAsWritten_zero, Spells]
    exact valueWith_sound fun _ reads => nomatch reads
  | succ depth ih =>
    rw [valueAsWritten_succ, Spells]
    refine valueWith_sound fun {c tail place v after} opens reads => ?_
    split at reads
    case isTrue bracket =>
      obtain ⟨⟨items, last⟩, listed, done⟩ := bind_eq_ok_iff.1 reads
      obtain ⟨rfl, rfl⟩ := Prod.mk.inj (Except.ok.inj done)
      subst bracket
      obtain ⟨inside, split, text⟩ := list_sound ih listed
      have split : tail = inside ++ ']' :: last.rest := split
      exact ⟨'[' :: (inside ++ [']']), by rw [split]; simp, .list text⟩
    case isFalse notBracket =>
      obtain ⟨⟨pairs, last⟩, paired, done⟩ := bind_eq_ok_iff.1 reads
      obtain ⟨rfl, rfl⟩ := Prod.mk.inj (Except.ok.inj done)
      obtain rfl : c = '\x7b' := opens.resolve_left notBracket
      obtain ⟨inside, split, text⟩ := object_sound ih paired
      have split : tail = inside ++ '\x7d' :: last.rest := split
      exact ⟨'\x7b' :: (inside ++ ['\x7d']), by rw [split]; simp, .object text⟩

/-- **What is spelled is read**, behind blanks and before all that does not continue a number. -/
theorem value_complete (depth : Nat) : Complete (valueAsWritten depth) (Spells depth) := by
  induction depth with
  | zero =>
    rw [valueAsWritten_zero, Spells]
    exact valueWith_complete False.elim False.elim
  | succ depth ih =>
    rw [valueAsWritten_succ, Spells]
    refine valueWith_complete ContainerText.exists_head fun {c tail v} text rest place => ?_
    cases text with
    | @list inside items text =>
      rw [List.append_assoc, List.singleton_append]
      exact (list_complete ih (fun text => text.exists_head) text rest place).bind fun place => ⟨place, rfl⟩
    | @object inside fields text =>
      rw [List.append_assoc, List.singleton_append]
      exact (object_complete ih text rest place).bind fun place => ⟨place, rfl⟩

/-- Of two values that the start of a text spells there is but one, with one rest. -/
theorem Spells.unique {depth : Nat} {first second rest rest' : List Char} {v w : Value} (spells : Spells depth first v)
    (spells' : Spells depth second w) (closed : Closed rest) (closed' : Closed rest')
    (same : first ++ rest = second ++ rest') : v = w ∧ rest = rest' := by
  obtain ⟨place, reads⟩ := value_complete depth blank_nil spells closed { line := 1, column := 0 }
  obtain ⟨place', reads'⟩ := value_complete depth blank_nil spells' closed' { line := 1, column := 0 }
  rw [same, reads', Except.ok.injEq, Prod.mk.injEq, Input.mk.injEq] at reads
  exact ⟨reads.1.symm, reads.2.1.symm⟩

end CanvasScript.Json
