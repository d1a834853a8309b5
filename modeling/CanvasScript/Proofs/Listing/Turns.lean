import CanvasScript.Proofs.Listing.Order
import Mathlib.Data.Int.CardIntervalMod
import Mathlib.Order.Interval.Finset.Nat

/-!
# Turns through a listing

The passes of a loop that goes through a directory take its entries in turn, in the order of their names, and start
over behind the last (`map_some_cycled`). So as many passes in a row as there are entries use each of them once
(`cycled_window_perm`), and of all passes each position in the order has its share (`share_turns`), as has each entry
where they are told apart (`share_cycled`).
-/

namespace CanvasScript

variable {entries : List DirEntry} {passes : Nat}

/-- The entries that so many passes use, one after the other. -/
def cycled (entries : List DirEntry) (passes : Nat) : List DirEntry :=
  (List.range passes).filterMap fun pass : Nat => entryInTurn? entries pass

theorem turn_natCast (pass count : Nat) : turn pass count = pass % count := by
  unfold turn
  omega

theorem entryInTurn?_natCast (entries : List DirEntry) (pass : Nat) :
    entryInTurn? entries pass = (sortEntries entries)[pass % entries.length]? := by
  rw [entryInTurn?, turn_natCast]

/-- It is the turn of some entry, whatever the counter. -/
theorem exists_entryInTurn (listed : entries ≠ []) (counter : Int) :
    ∃ entry, entryInTurn? entries counter = some entry := by
  have inside : turn counter entries.length < (sortEntries entries).length := by
    rw [length_sortEntries]
    exact turn_lt counter (List.length_pos_of_ne_nil listed)
  exact ⟨_, List.getElem?_eq_getElem inside⟩

/-- Every pass uses the entry whose turn it is. -/
theorem map_some_cycled (listed : entries ≠ []) (passes : Nat) :
    (cycled entries passes).map some = (List.range passes).map fun pass : Nat => entryInTurn? entries pass := by
  choose file turns using exists_entryInTurn listed
  simp [cycled, turns]

theorem length_cycled (listed : entries ≠ []) (passes : Nat) : (cycled entries passes).length = passes := by
  have same := congrArg List.length (map_some_cycled listed passes)
  simpa using same

/-- A pass uses the entry at its position in the order of names. -/
theorem getElem?_cycled (listed : entries ≠ []) {pass : Nat} (within : pass < passes) :
    (cycled entries passes)[pass]? = (sortEntries entries)[pass % entries.length]? := by
  have same := congrArg (fun list => list[pass]?) (map_some_cycled listed passes)
  rw [List.getElem?_map, List.getElem?_map, List.getElem?_range within, Option.map_some, entryInTurn?_natCast] at same
  cases used : (cycled entries passes)[pass]? with
  | none => simp [used] at same
  | some entry => simpa [used] using same

section Window

/-- The entries at all positions are all entries. -/
theorem map_range_getElem? {α : Type} (list : List α) :
    (List.range list.length).map (fun position => list[position]?) = list.map some := by
  apply List.ext_getElem
  · simp
  · intro i _ _
    simp

/-- As many passes in a row as there are positions come to each position once. -/
theorem turns_perm (first count : Nat) : ((List.range' first count).map (· % count)).Perm (List.range count) := by
  have same := Nat.multiset_Ico_map_mod first count
  rw [Multiset.Ico, Nat.Ico_eq_range', Nat.add_sub_cancel_left] at same
  exact Multiset.coe_eq_coe.1 same

/-- As many passes in a row as there are entries use each entry once. -/
theorem cycled_window_perm (listed : entries ≠ []) {first : Nat} (within : first + entries.length ≤ passes) :
    (((cycled entries passes).drop first).take entries.length).Perm entries := by
  have part : ((List.range passes).drop first).take entries.length = List.range' first entries.length := by
    apply List.ext_getElem
    · simp only [List.length_take, List.length_drop, List.length_range, List.length_range']
      omega
    · intro i _ _
      simp
  have window : (((cycled entries passes).drop first).take entries.length).map some =
      (List.range' first entries.length).map fun pass : Nat => entryInTurn? entries pass := by
    rw [List.map_take, List.map_drop, map_some_cycled listed, ← List.map_drop, ← List.map_take, part]
  have sorted : ((List.range' first entries.length).map fun pass : Nat => entryInTurn? entries pass).Perm
      ((sortEntries entries).map some) := by
    have each := (turns_perm first entries.length).map fun position => (sortEntries entries)[position]?
    rw [List.map_map, ← length_sortEntries entries, map_range_getElem?, length_sortEntries] at each
    simpa only [Function.comp_def, ← entryInTurn?_natCast] using each
  have perm := (window ▸ sorted).trans ((sortEntries_perm entries).map some)
  exact (List.map_perm_map_iff (Option.some_injective _)).1 perm

end Window

section Shares

variable {position : Nat}

/-- Of all passes each position has its share; where they cannot be shared out evenly the first ones have one more. -/
theorem count_turns (inside : position < entries.length) (passes : Nat) :
    Nat.count (fun pass : Nat => turn pass entries.length = position) passes =
      passes / entries.length + if position < passes % entries.length then 1 else 0 := by
  have positive : 0 < entries.length := Nat.zero_lt_of_lt inside
  have shares := Nat.count_modEq_card passes positive position
  simpa [turn_natCast, Nat.ModEq, Nat.mod_eq_of_lt inside] using shares

/-- A position has its share of the passes, rounded down or up. -/
theorem share_turns (inside : position < entries.length) (passes : Nat) :
    let used := Nat.count (fun pass : Nat => turn pass entries.length = position) passes
    used = passes / entries.length ∨ used = (passes + entries.length - 1) / entries.length := by
  intro used
  have count : used = _ := count_turns inside passes
  by_cases more : position < passes % entries.length
  · right
    rw [count, if_pos more]
    have rest : passes % entries.length < entries.length := Nat.mod_lt _ (by omega)
    have whole : passes + entries.length - 1 =
        (passes % entries.length - 1) + entries.length * (passes / entries.length + 1) := by
      have parts := Nat.div_add_mod passes entries.length
      rw [Nat.mul_succ]
      omega
    have small : (passes % entries.length - 1) / entries.length = 0 := Nat.div_eq_of_lt (by omega)
    rw [whole, Nat.add_mul_div_left _ _ (by omega), small, Nat.zero_add]
  · left
    rw [count, if_neg more, Nat.add_zero]

theorem cycled_succ (entries : List DirEntry) (passes : Nat) :
    cycled entries (passes + 1) = cycled entries passes ++ (entryInTurn? entries passes).toList := by
  rw [cycled, List.range_succ, List.filterMap_append, cycled]
  cases turn : entryInTurn? entries passes <;> simp [turn]

/-- An entry is used in the passes in which it is its turn. -/
theorem count_cycled_eq_count_turn (entries : List DirEntry) (entry : DirEntry) (passes : Nat) :
    (cycled entries passes).count entry =
      Nat.count (fun pass : Nat => entryInTurn? entries pass = some entry) passes := by
  induction passes with
  | zero => rfl
  | succ passes ih =>
    rw [cycled_succ, List.count_append, ih, Nat.count_succ]
    cases entryInTurn? entries passes with
    | none => simp
    | some other => simp [List.count_singleton]

/-- Of entries that are told apart each has its share of the passes, rounded down or up. -/
theorem share_cycled (distinct : entries.Nodup) {entry : DirEntry} (listed : entry ∈ entries) (passes : Nat) :
    let used := (cycled entries passes).count entry
    used = passes / entries.length ∨ used = (passes + entries.length - 1) / entries.length := by
  have once : (sortEntries entries).Nodup := (sortEntries_perm entries).nodup_iff.2 distinct
  obtain ⟨position, inside, rfl⟩ := List.getElem_of_mem ((sortEntries_perm entries).mem_iff.2 listed)
  have inside' : position < entries.length := length_sortEntries entries ▸ inside
  have turns (pass : Nat) : entryInTurn? entries pass = some (sortEntries entries)[position] ↔
      turn pass entries.length = position := by
    have valid : turn pass entries.length < (sortEntries entries).length := by
      rw [length_sortEntries]
      exact turn_lt pass (by omega)
    rw [entryInTurn?, ← List.getElem?_eq_getElem inside, List.getElem?_inj valid once]
  simp only [count_cycled_eq_count_turn, turns]
  exact share_turns inside' passes

end Shares

/-- Files are used in turn: in every pass the next in the order of names, in as many passes in a row as there are
entries each of them once, and so each as often as the passes are shared out, rounded down or up. -/
structure UsedInTurn (entries files : List DirEntry) : Prop where
  each : ∀ pass < files.length, files[pass]? = (sortEntries entries)[pass % entries.length]?
  window : ∀ first, first + entries.length ≤ files.length → ((files.drop first).take entries.length).Perm entries
  share : ∀ position < entries.length,
    let used := Nat.count (fun pass : Nat => turn pass entries.length = position) files.length
    used = files.length / entries.length ∨ used = (files.length + entries.length - 1) / entries.length
  share_of_entry : entries.Nodup → ∀ entry ∈ entries,
    let used := files.count entry
    used = files.length / entries.length ∨ used = (files.length + entries.length - 1) / entries.length

theorem usedInTurn_cycled (listed : entries ≠ []) (passes : Nat) : UsedInTurn entries (cycled entries passes) := by
  have length := length_cycled listed passes
  constructor
  case each =>
    intro pass within
    exact getElem?_cycled listed (length ▸ within)
  case window =>
    intro first within
    exact cycled_window_perm listed (length ▸ within)
  case share =>
    intro position inside
    rw [length]
    exact share_turns inside passes
  case share_of_entry =>
    intro distinct entry mem
    rw [length]
    exact share_cycled distinct mem passes

end CanvasScript
