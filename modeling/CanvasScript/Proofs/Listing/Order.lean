import CanvasScript.Proofs.Run.Touches
import Mathlib.Data.List.Sort
import Mathlib.Data.String.Basic

/-!
# Turns and the order of listings

The entry whose turn it is should not depend on the order in which a directory is listed. It
does not when no two names are the same without regard to case; two names that are keep the
order of the listing, so a listing the other way round gives them other turns
(`turns_independent_of_order_iff`).
-/

namespace CanvasScript

/-- The name of an entry as it is compared. -/
def DirEntry.foldedName (entry : DirEntry) : String := Text.lower entry.name

namespace Listing

/-- An entry is not after another. -/
def le (first second : DirEntry) : Bool := nameLe first.name second.name

theorem le_iff {first second : DirEntry} : le first second = true ↔ first.foldedName ≤ second.foldedName := by
  unfold le nameLe DirEntry.foldedName
  rw [Bool.not_eq_true', decide_eq_false_iff_not, not_lt]

theorem le_trans (first second third : DirEntry) (h : le first second = true) (h' : le second third = true) :
    le first third = true := by
  rw [le_iff] at h h' ⊢
  exact h.trans h'

theorem le_total (first second : DirEntry) : (le first second || le second first) = true := by
  rw [Bool.or_eq_true, le_iff, le_iff]
  exact Std.le_total

end Listing

open Listing

variable {entries others : List DirEntry}

theorem sortEntries_perm (entries : List DirEntry) : (sortEntries entries).Perm entries :=
  List.mergeSort_perm entries le

theorem length_sortEntries (entries : List DirEntry) : (sortEntries entries).length = entries.length :=
  (sortEntries_perm entries).length_eq

theorem pairwise_sortEntries (entries : List DirEntry) : (sortEntries entries).Pairwise fun a b => le a b = true :=
  List.pairwise_mergeSort le_trans le_total entries

/-- What is in order is left as it is. -/
theorem sortEntries_of_pairwise (ordered : entries.Pairwise fun a b => le a b = true) :
    sortEntries entries = entries :=
  List.mergeSort_of_pairwise ordered

/-- The order of a listing does not matter to its sorting when all names are told apart. -/
theorem sortEntries_eq_of_perm (distinct : (entries.map DirEntry.foldedName).Nodup) (perm : others.Perm entries) :
    sortEntries others = sortEntries entries := by
  have same : (sortEntries others).Perm (sortEntries entries) :=
    (sortEntries_perm others).trans (perm.trans (sortEntries_perm entries).symm)
  refine same.eq_of_pairwise (fun a b inside inside' ab ba => ?_) (pairwise_sortEntries _) (pairwise_sortEntries _)
  have a_mem : a ∈ entries := perm.mem_iff.1 ((sortEntries_perm others).mem_iff.1 inside)
  have b_mem : b ∈ entries := (sortEntries_perm entries).mem_iff.1 inside'
  exact List.inj_on_of_nodup_map distinct a_mem b_mem (le_antisymm (le_iff.1 ab) (le_iff.1 ba))

/-- Two entries with one folded name stay in the order in which they are listed. -/
theorem pair_sublist_sortEntries {a b : DirEntry} (same : a.foldedName = b.foldedName) (listed : [a, b].Sublist entries) :
    [a, b].Sublist (sortEntries entries) :=
  List.pair_sublist_mergeSort le_trans le_total (le_iff.2 same.le) listed

/-- In a list without repetition two elements do not stand both ways round. -/
theorem not_both_ways {list : List α} {a b : α} (once : list.Nodup) (forth : [a, b].Sublist list)
    (back : [b, a].Sublist list) : False := by
  induction list with
  | nil => cases forth
  | cons c list ih =>
    obtain ⟨fresh, later⟩ := List.nodup_cons.1 once
    cases forth with
    | cons _ forth =>
      cases back with
      | cons _ back => exact ih later forth back
      | cons_cons _ _ => exact fresh (forth.subset (List.mem_cons_of_mem _ List.mem_cons_self))
    | cons_cons _ forth =>
      cases back with
      | cons _ back => exact fresh (back.subset (List.mem_cons_of_mem _ List.mem_cons_self))
      | cons_cons _ _ => exact fresh (forth.subset List.mem_cons_self)

/-- All turns together tell the order. -/
theorem sortEntries_eq_of_turns (length : others.length = entries.length)
    (turns : ∀ counter, entryInTurn? others counter = entryInTurn? entries counter) :
    sortEntries others = sortEntries entries := by
  refine List.ext_getElem? fun i => ?_
  by_cases inside : i < entries.length
  · have here := turns i
    have position : turn i entries.length = i := by
      unfold turn
      rw [Int.emod_eq_of_lt (by omega) (by omega)]
      rfl
    rw [entryInTurn?, entryInTurn?, length, position] at here
    exact here
  · rw [List.getElem?_eq_none (by rw [length_sortEntries]; omega),
      List.getElem?_eq_none (by rw [length_sortEntries]; omega)]

/-- **When turns do not depend on the order of a listing.** They do not just when no two names
are the same without regard to case. Then both instructions that go through the directory touch
the same files in every pass, in whatever order a host lists it. -/
theorem turns_independent_of_order_iff (distinct : (entries.map DirEntry.name).Nodup) :
    ((∀ others : List DirEntry, others.Perm entries →
        ∀ counter, entryInTurn? others counter = entryInTurn? entries counter) ↔
      (entries.map DirEntry.foldedName).Nodup) ∧
    ((entries.map DirEntry.foldedName).Nodup → ∀ (first second : Host) (directory : String) (others : List DirEntry),
      first.filesOf directory = .ok entries → second.filesOf directory = .ok others → others.Perm entries →
        ∀ spot : Spot,
          (Instruction.loopLoad directory).touch? spot second = (Instruction.loopLoad directory).touch? spot first ∧
            (Instruction.loopAddMoodboard directory).touch? spot second =
              (Instruction.loopAddMoodboard directory).touch? spot first) := by
  have turns (folded : (entries.map DirEntry.foldedName).Nodup) {others : List DirEntry} (perm : others.Perm entries)
      (counter : Int) : entryInTurn? others counter = entryInTurn? entries counter := by
    rw [entryInTurn?, entryInTurn?, sortEntries_eq_of_perm folded perm, perm.length_eq]
  refine ⟨⟨fun independent => ?apart, fun folded others perm => turns folded perm⟩, ?touched⟩
  case apart =>
    have listed : entries.Nodup := distinct.of_map
    -- Listed backwards, two entries with one folded name would be sorted both ways round.
    have backwards := sortEntries_eq_of_turns entries.length_reverse (independent _ entries.reverse_perm)
    rw [List.Nodup, List.pairwise_map]
    refine List.pairwise_iff_forall_sublist.2 fun {a b} ab same => ?_
    have forth := pair_sublist_sortEntries same ab
    have back : [b, a].Sublist (sortEntries entries) := by
      rw [← backwards]
      exact pair_sublist_sortEntries same.symm ab.reverse
    have once : (sortEntries entries).Nodup := (sortEntries_perm entries).nodup_iff.2 listed
    exact not_both_ways once forth back
  case touched =>
    intro folded first second directory others files files' perm spot
    have same : second.fileInTurn? directory spot.counter = first.fileInTurn? directory spot.counter := by
      rw [Host.fileInTurn?, Host.fileInTurn?, files, files']
      exact turns folded perm spot.counter
    exact ⟨by rw [Instruction.touch?, same]; rfl, by rw [Instruction.touch?, same]; rfl⟩

/-- Two files whose names differ in case alone, in a directory. -/
def twins : List DirEntry :=
  [{ name := "a.png", path := "/pics/a.png" }, { name := "A.png", path := "/pics/A.png" }]

/-- They are told apart by the order in which they are listed. -/
theorem turns_depend_on_order_twins :
    (twins.map DirEntry.name).Nodup ∧ twins.reverse.Perm twins ∧ entryInTurn? twins.reverse 0 ≠ entryInTurn? twins 0 := by
  have forth : sortEntries twins = twins := sortEntries_of_pairwise (by decide +kernel)
  have back : sortEntries twins.reverse = twins.reverse := sortEntries_of_pairwise (by decide +kernel)
  refine ⟨by decide, twins.reverse_perm, ?_⟩
  rw [entryInTurn?, entryInTurn?, forth, back]
  decide

/-- Three files whose names differ in more than case. -/
def shots : List DirEntry :=
  [{ name := "a.png", path := "/pics/a.png" }, { name := "B.png", path := "/pics/B.png" },
    { name := "C.png", path := "/pics/C.png" }]

/-- Listed backwards they have the same turns; the first is the one in lower case. -/
theorem turns_independent_of_order_shots :
    (shots.map DirEntry.name).Nodup ∧ (shots.map DirEntry.foldedName).Nodup ∧
      (∀ counter, entryInTurn? shots.reverse counter = entryInTurn? shots counter) ∧
      (entryInTurn? shots.reverse 0).map DirEntry.name = some "a.png" := by
  have distinct : (shots.map DirEntry.name).Nodup := by decide
  have folded : (shots.map DirEntry.foldedName).Nodup := by decide +kernel
  have same := (turns_independent_of_order_iff distinct).1.2 folded _ shots.reverse_perm
  refine ⟨distinct, folded, same, ?_⟩
  rw [same, entryInTurn?, sortEntries_of_pairwise (by decide +kernel)]
  decide

end CanvasScript
