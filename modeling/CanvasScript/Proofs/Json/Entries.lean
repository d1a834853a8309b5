import CanvasScript.Proofs.Json.Reading
import CanvasScript.Script

/-!
# Entries as they are written

The entries of a text are the elements of the list that it spells, with the fields of every
object sorted (`readEntries_eq_ok_iff`). What a text spells is told by its characters alone
(`asWritten_eq_ok_iff`), and sorted it is a value that JSON has (`Spells.proper`).
-/

namespace CanvasScript.Json

open Outcome (bind_eq_ok_iff)

/-- A reader with its values changed by a function. -/
def mapped (f : α → β) (reader : Reader α) : Reader β := fun input =>
  (reader input).map fun (a, rest) => (f a, rest)

section Mapped

variable {α β : Type} {f : α → β} {reader : Reader α}

theorem mapped_eq_ok_iff {input after : Input} {b : β} :
    mapped f reader input = .ok (b, after) ↔ ∃ a, reader input = .ok (a, after) ∧ b = f a := by
  unfold mapped
  cases reader input with
  | error m => simp [Except.map]
  | ok pair =>
    obtain ⟨a, last⟩ := pair
    simp [Except.map, eq_comm, and_comm]

/-- Elements may be changed one by one or all at the end. -/
theorem loop_mapped (next : Bool → Input → Except Mistake (Bool × Input)) (unclosed : Cause) (element : Reader α)
    (fuel : Nat) (first : Bool) (read : List α) :
    loop next unclosed (mapped f element) fuel first (read.map f) =
      mapped (List.map f) (loop next unclosed element fuel first read) := by
  induction fuel generalizing first read with
  | zero => rfl
  | succ fuel ih =>
    funext input
    rw [mapped, loop, loop]
    rcases next first input with _ | ⟨more, here⟩
    · rfl
    · cases more with
      | false =>
        show Except.ok ((read.map f).reverse, here) = Except.ok (read.reverse.map f, here)
        rw [List.map_reverse]
      | true =>
        show (mapped f element here >>= fun pair =>
            loop next unclosed (mapped f element) fuel false (pair.1 :: read.map f) pair.2) =
          Except.map _ (element here >>= fun pair => loop next unclosed element fuel false (pair.1 :: read) pair.2)
        rw [mapped]
        rcases element here with _ | ⟨a, last⟩
        · rfl
        · exact congrFun (ih false (a :: read)) last

theorem field_mapped (element : Reader α) : field (mapped f element) = mapped (Prod.map id f) (field element) := by
  funext input
  rw [mapped, field, field]
  rcases string input.tail with _ | ⟨key, second⟩
  · rfl
  · show (do let (a, input) ← mapped f element (← colon second); return ((key, a), input)) =
      Except.map _ (do let (a, input) ← element (← colon second); return ((key, a), input))
    rcases colon second with _ | third
    · rfl
    · show (mapped f element third >>= _) = Except.map _ (element third >>= _)
      rw [mapped]
      rcases element third with _ | ⟨a, last⟩ <;> rfl

theorem list_mapped (element : Reader α) : list (mapped f element) = mapped (List.map f) (list element) := by
  funext input
  rw [mapped, list, list, items_eq_loop, items_eq_loop]
  have here := congrFun (loop_mapped (f := f) nextItem .endInList element input.rest.length true []) input.tail
  rw [List.map_nil] at here
  rw [here, mapped]
  rcases loop nextItem .endInList element input.rest.length true [] input.tail with _ | ⟨as, last⟩
  · rfl
  · show (do return (as.map f, ← endList last)) = Except.map _ (do return (as, ← endList last))
    rcases endList last with _ | _ <;> rfl

theorem object_mapped (element : Reader α) :
    object (mapped f element) = mapped (List.map (Prod.map id f)) (object element) := by
  funext input
  rw [mapped, object, object, members_eq_loop, members_eq_loop, field_mapped]
  have here := congrFun
    (loop_mapped (f := Prod.map id f) nextMember .endInObject (field element) input.rest.length true []) input.tail
  rw [List.map_nil] at here
  rw [here, mapped]
  rcases loop nextMember .endInObject (field element) input.rest.length true [] input.tail with _ | ⟨pairs, last⟩
  · rfl
  · show (do return (pairs.map (Prod.map id f), ← endObject last)) = Except.map _ (do return (pairs, ← endObject last))
    rcases endObject last with _ | _ <;> rfl

end Mapped

section Values

theorem valueWith_mapped (container : Char → Reader Value) :
    valueWith (fun c => mapped Value.canonical (container c)) = mapped Value.canonical (valueWith container) := by
  funext input
  rw [mapped, valueWith, valueWith]
  split
  case h_1 => rfl
  case h_2 => cases word ['n', 'u', 'l', 'l'] input.skipSpaces <;> rfl
  case h_3 => cases word ['t', 'r', 'u', 'e'] input.skipSpaces <;> rfl
  case h_4 => cases word ['f', 'a', 'l', 's', 'e'] input.skipSpaces <;> rfl
  case h_5 => cases string input.skipSpaces.tail <;> rfl
  case h_6 =>
    split
    case isTrue =>
      generalize input.skipSpaces = start
      obtain ⟨rest, place⟩ := start
      cases reads : number { rest, place } with
      | error m => rfl
      | ok pair =>
        obtain ⟨v, after⟩ := pair
        obtain ⟨core, -, -, numeral⟩ := number_sound reads
        show _ = Except.ok (v.canonical, after)
        rw [numeral.canonical]
    case isFalse =>
      split
      case isTrue => rfl
      case isFalse => rfl

theorem value_succ (depth : Nat) :
    value (depth + 1) = valueWith fun c input => do
      if c = '[' then
        let (read, input) ← list (value depth) input
        return (.array read, input)
      else
        let (read, input) ← object (value depth) input
        return (.object (Fields.ofList read), input) := rfl

/-- A value is read as it is written and then its fields are sorted. -/
theorem value_eq_mapped (depth : Nat) : value depth = mapped Value.canonical (valueAsWritten depth) := by
  induction depth with
  | zero => exact valueWith_mapped fun _ input => input.failAhead .nestingLimit
  | succ depth ih =>
    rw [valueAsWritten_succ, ← valueWith_mapped, value_succ, ih]
    congr 1
    funext c input
    rw [mapped]
    split
    case isTrue =>
      rw [list_mapped, mapped]
      rcases list (valueAsWritten depth) input with _ | ⟨items, last⟩
      · rfl
      · show Except.ok (Value.array (items.map Value.canonical), last) = Except.ok ((Value.array items).canonical, last)
        rw [Value.canonical_array]
    case isFalse =>
      rw [object_mapped, mapped]
      rcases object (valueAsWritten depth) input with _ | ⟨fields, last⟩
      · rfl
      · show Except.ok (Value.object (Fields.ofList (fields.map (Prod.map id Value.canonical))), last) =
          Except.ok ((Value.object fields).canonical, last)
        rw [Value.canonical_object]
        rfl

end Values

/-- The value that a text spells, with its fields as they are written. -/
def asWritten (text : String) : Except Mistake Value := wholeText (valueAsWritten nestingLimit) text

/-- A whole text is read when nothing but blanks stands behind what is read. -/
theorem wholeText_eq_ok_iff {reader : Reader α} {text : String} {a : α} :
    wholeText reader text = .ok a ↔ ∃ after, reader (.ofText text) = .ok (a, after) ∧ after.skipSpaces.rest = [] := by
  unfold wholeText
  rw [bind_eq_ok_iff]
  constructor
  · rintro ⟨⟨b, after⟩, reads, done⟩
    simp only at done
    split at done
    case isTrue ends =>
      obtain rfl := Except.ok.inj done
      exact ⟨after, reads, List.isEmpty_iff.1 ends⟩
    case isFalse => cases done
  · rintro ⟨after, reads, ends⟩
    exact ⟨(a, after), reads, if_pos (List.isEmpty_iff.2 ends)⟩

/-- A reader may leave blanks behind what it gives. -/
theorem wholeText_of_gives {reader : Reader α} {text : String} {a : α} {gap : List Char}
    (gives : Gives (reader (Input.ofText text)) a gap) (blank : Blank gap) : wholeText reader text = .ok a := by
  obtain ⟨after, reads⟩ := gives
  obtain ⟨last, skipped⟩ := skipSpaces_blank blank after
  exact wholeText_eq_ok_iff.2 ⟨{ rest := gap, place := after }, reads, congrArg Input.rest skipped⟩

/-- A whole text is read when it is what the reader takes, between blanks. -/
theorem wholeText_eq_ok_iff_text {reader : Reader α} {Text : List Char → α → Prop}
    (sound : Sound Anything reader Text) (complete : Complete reader Text) {text : String} {a : α} :
    wholeText reader text = .ok a ↔ ∃ gap core gap', Blank gap ∧ Blank gap' ∧ text.toList = gap ++ (core ++ gap') ∧
      Text core a := by
  constructor
  · intro read
    obtain ⟨after, reads, ends⟩ := wholeText_eq_ok_iff.1 read
    obtain ⟨gap, core, blank, split, inside⟩ := sound trivial reads
    obtain ⟨gap', blank', same, -⟩ := exists_of_skipSpaces after
    rw [ends, List.append_nil] at same
    exact ⟨gap, core, gap', blank, blank', by rw [← same]; exact split, inside⟩
  · rintro ⟨gap, core, gap', blank, blank', split, inside⟩
    have closed : Closed gap' := by
      have here := blank'.closed closed_nil
      rwa [List.append_nil] at here
    have gives : Gives (reader (Input.ofText text)) a gap' := by
      rw [Input.ofText, split]
      exact complete blank inside closed _
    exact wholeText_of_gives gives blank'

/-- A text is read when it is a value between blanks. -/
theorem asWritten_eq_ok_iff {text : String} {v : Value} :
    asWritten text = .ok v ↔ ∃ gap core gap', Blank gap ∧ Blank gap' ∧ text.toList = gap ++ (core ++ gap') ∧
      Spells nestingLimit core v :=
  wholeText_eq_ok_iff_text (value_sound nestingLimit) (value_complete nestingLimit)

theorem wrongType_ne_ok (expected : String) (input : Input) (a : α) : wrongType expected input ≠ .ok a := by
  unfold wrongType
  simp only
  split <;> nofun

/-- Only a list starts with its bracket. -/
theorem Spells.bracket {depth : Nat} {core : List Char} {items : List Value}
    (spells : Spells depth core (.array items)) : ∃ tail, core = '[' :: tail := by
  have opens {Container : List Char → Value → Prop} {v : Value} (text : ValueText Container core v)
      (isArray : v = .array items) : Container core (.array items) := by
    cases text with
    | number isNumber =>
      have numeral := isNumber.isNumeral
      rw [isArray] at numeral
      cases numeral
    | container isContainer => exact isArray ▸ isContainer
    | _ => cases isArray
  cases depth with
  | zero => exact (opens spells rfl).elim
  | succ depth =>
    cases opens spells rfl with
    | list _ => exact ⟨_, rfl⟩

/-- A list of values is read as it is written, and then the fields of its elements are sorted. -/
theorem valueList_eq_ok_iff {input after : Input} {xs : List Value} :
    valueList input = .ok (xs, after) ↔
      ∃ ws, valueAsWritten nestingLimit input = .ok (.array ws, after) ∧ xs = ws.map Value.canonical := by
  have unfolded : valueAsWritten nestingLimit = valueAsWritten (nestingLimit - 1 + 1) := rfl
  unfold valueList
  simp only
  split
  case h_1 empty =>
    refine ⟨nofun, ?_⟩
    rintro ⟨ws, reads, -⟩
    rw [unfolded, valueAsWritten_succ, valueWith, empty] at reads
    cases reads
  case h_2 tail bracket =>
    have here : valueAsWritten nestingLimit input = (do
        let (read, input) ← list (valueAsWritten (nestingLimit - 1)) input.skipSpaces
        return (.array read, input)) := by
      rw [unfolded, valueAsWritten_succ, valueWith, bracket]
      rfl
    rw [here, value_eq_mapped, list_mapped, mapped_eq_ok_iff]
    simp only [bind_eq_ok_iff]
    constructor
    · rintro ⟨ws, reads, rfl⟩
      exact ⟨ws, ⟨(ws, after), reads, rfl⟩, rfl⟩
    · rintro ⟨ws, ⟨⟨vs, last⟩, reads, done⟩, rfl⟩
      cases done
      exact ⟨vs, reads, rfl⟩
  case h_3 notEmpty notBracket =>
    refine ⟨fun reads => absurd reads (wrongType_ne_ok _ _ _), ?_⟩
    rintro ⟨ws, reads, -⟩
    obtain ⟨rest, place⟩ := input
    obtain ⟨gap, core, blank, split, spells⟩ := value_sound nestingLimit trivial reads
    obtain ⟨tail, rfl⟩ := spells.bracket
    obtain ⟨after, skipped⟩ := skipSpaces_cons blank (c := '[') (by decide) (tail ++ Input.rest _) place
    rw [← List.cons_append, ← split] at skipped
    exact absurd (congrArg Input.rest skipped) (notBracket _)

/-- The entries of a text are the elements of the list that it spells, with sorted fields. -/
theorem readEntries_eq_ok_iff {text : String} {xs : List Value} :
    readEntries text = .ok xs ↔ ∃ ws, asWritten text = .ok (.array ws) ∧ xs = ws.map Value.canonical := by
  unfold readEntries asWritten
  simp only [wholeText_eq_ok_iff, valueList_eq_ok_iff]
  constructor
  · rintro ⟨after, ⟨ws, written, same⟩, ends⟩
    exact ⟨ws, ⟨after, written, ends⟩, same⟩
  · rintro ⟨ws, ⟨after, written, ends⟩, same⟩
    exact ⟨after, ⟨ws, written, same⟩, ends⟩

/-- What is spelled is a value that JSON has, once its fields are sorted. -/
theorem Spells.proper {depth : Nat} {core : List Char} {v : Value} (spells : Spells depth core v) :
    v.canonical.Proper := by
  have scalar {Container : List Char → Value → Prop} {core : List Char} {v : Value} (text : ValueText Container core v)
      (inside : Container core v → v.canonical.Proper) : v.canonical.Proper := by
    cases text with
    | null => exact .null
    | bool b => exact .bool b
    | string _ => exact .string _
    | number isNumber =>
      rw [isNumber.isNumeral.canonical]
      exact isNumber.isNumeral.proper
    | container isContainer => exact inside isContainer
  induction depth generalizing core v with
  | zero => exact scalar spells False.elim
  | succ depth ih =>
    refine scalar spells fun isContainer => ?_
    cases isContainer with
    | list inside =>
      rw [Value.canonical_array]
      refine .array fun w mem => ?_
      obtain ⟨v, mem', rfl⟩ := List.mem_map.1 mem
      obtain ⟨core, text⟩ := inside.exists_of_mem mem'
      exact ih text
    | object inside =>
      rw [Value.canonical_object]
      refine .object (Fields.sorted_ofList _).distinct fun field mem => ?_
      obtain ⟨⟨key, v⟩, mem', rfl⟩ := List.mem_map.1 (Fields.mem_of_mem_ofList mem)
      obtain ⟨core, text⟩ := inside.exists_of_mem mem'
      cases text with
      | pair _ _ _ element => exact ih element

/-- The entries of a text are values that JSON has, and their fields are sorted. -/
theorem proper_of_readEntries {text : String} {xs : List Value} (read : readEntries text = .ok xs) :
    ∀ v ∈ xs, v.Proper ∧ v.canonical = v := by
  intro v mem
  obtain ⟨ws, written, rfl⟩ := readEntries_eq_ok_iff.1 read
  obtain ⟨w, mem', rfl⟩ := List.mem_map.1 mem
  refine ⟨?_, Value.canonical_canonical w⟩
  obtain ⟨gap, core, gap', -, -, -, spells⟩ := asWritten_eq_ok_iff.1 written
  have proper := spells.proper
  rw [Value.canonical_array] at proper
  cases proper with
  | array each => exact each _ mem

end CanvasScript.Json
