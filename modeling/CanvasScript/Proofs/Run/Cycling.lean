import CanvasScript.Proofs.Listing.Turns
import CanvasScript.Proofs.Run.Operations
import CanvasScript.Proofs.Run.Passage
import CanvasScript.Proofs.Run.SavedPaths

/-!
# Cycling through a directory

Two instructions use in a loop the files of a directory (`Instruction.cycles?`), in every pass the one whose turn it
is (`Script.touch?_of_pass`). So a loop that is not cut uses the entries in turn (`Script.closed_loop_cycles`). Going
through a directory cuts no loop as long as the directory has files and the host refuses nothing
(`Script.completed_of_cycles`).
-/

namespace CanvasScript

/-- The directory that an instruction goes through in a loop, and the call by which it uses an entry. -/
def Instruction.cycles? : Instruction → Option (String × (DirEntry → Call))
  | .loopLoad directory => some (directory, fun entry => .loadImage entry.path)
  | .loopAddMoodboard directory => some (directory, fun entry => .addToMoodboard [FilePath.url entry.path])
  | _ => none

theorem Instruction.touch?_of_cycles {instruction : Instruction} {directory : String} {use : DirEntry → Call}
    (cycles : instruction.cycles? = some (directory, use)) (spot : Spot) (host : Host) :
    instruction.touch? spot host = (host.fileInTurn? directory spot.counter).map use := by
  cases instruction with
  | loopLoad _ | loopAddMoodboard _ =>
    cases cycles
    rfl
  | _ => cases cycles

namespace Stage

variable {setting : Setting} {spot : Spot} {instruction : Instruction} {directory : String} {use : DirEntry → Call}
  {entry : DirEntry} {s : Stage}

theorem run_fileInTurn_of_turn (works : s.host.failing ≠ some "read_entries") {counter : Int}
    (turn : s.host.fileInTurn? directory counter = some entry) :
    (fileInTurn counter directory).run s = (.ok entry, s) := by
  have read : (Host.readEntries directory).run s.host = (s.host.filesOf directory, s.host) :=
    Attempt.run_bind_ok (Host.run_guard_of_working works) _
  rw [fileInTurn, Attempt.run_bind, run_onHost, read]
  rw [Host.fileInTurn?] at turn
  cases files : s.host.filesOf directory with
  | error e => simp [files] at turn
  | ok entries =>
    have turn' : entryInTurn? entries counter = some entry := by simpa [files] using turn
    simp [Except.mapError, turn']

theorem run_wait (millis : Nat) : (onHost (Host.settle millis)).run s = (.ok (), s.logged [.settle millis]) := by
  rw [logged, ← Array.push_eq_append]
  rfl

/-- A host that refuses nothing that it takes uses the entry whose turn it is. -/
theorem run_of_cycles (cycles : instruction.cycles? = some (directory, use))
    (works : ∀ name ∈ ["read_entries", "load_image", "add_to_moodboard"], s.host.failing ≠ some name)
    (turn : s.host.fileInTurn? directory spot.counter = some entry) :
    ∃ millis, (perform setting spot instruction).run s = (.ok (), s.logged [use entry, .settle millis]) := by
  have found := run_fileInTurn_of_turn (works _ (by decide)) turn
  cases instruction with
  | loopLoad directory =>
    cases cycles
    have loaded : (onHost (Host.loadImage entry.path)).run s = _ := run_record (works "load_image" (by decide))
    refine ⟨setting.settings.settleDelay, ?_⟩
    refine (Attempt.run_bind_ok found _).trans ((Attempt.run_bind_ok loaded _).trans ?_)
    rw [settle, run_wait, logged_logged]
    rfl
  | loopAddMoodboard directory =>
    cases cycles
    have added : (onHost (Host.addToMoodboard [FilePath.url entry.path])).run s = _ :=
      run_record (works "add_to_moodboard" (by decide))
    refine ⟨setting.settings.moodboardSettleDelay, ?_⟩
    refine (Attempt.run_bind_ok found _).trans ((Attempt.run_bind_ok added _).trans ?_)
    rw [settleMoodboard, run_wait, logged_logged]
    rfl
  | _ => cases cycles

end Stage

/-- The visit to a step in a pass of a block. -/
def Block.visit (block : Block) (i pass : Nat) : Visit := { index := i, frame := some (block.frame pass) }

theorem Block.nodup_visitsTo (block : Block) (i passes : Nat) : (block.visitsTo i passes).Nodup := by
  refine List.nodup_range.map fun first second same => ?_
  have frames : some (block.frame first) = some (block.frame second) := congrArg Visit.frame same
  have counters : (first : Int) = second := congrArg LoopFrame.counter (Option.some.inj frames)
  exact_mod_cast counters

namespace Script

variable {script : Script} {setting : Setting} {stage : Stage} {block : Block} {i : Nat}

/-- An instruction is once a member of the segment that has it. -/
theorem count_member {segment : Segment} (within : segment ∈ segmentsFrom 0 none script.steps)
    (member : i ∈ segment.members) : segment.members.count i = 1 := by
  have once : segment.members.Nodup := (List.nodup_flatMap.1 (nodup_members script.steps)).1 segment within
  exact List.count_eq_one_of_mem once member

/-- A pass of a closed block has one visit to a member. -/
theorem filter_walk_closed (once : block.members.count i = 1) {pass : Nat} (within : pass < block.spec.runs) :
    (Segment.closed block).walk.filter (· == block.visit i pass) = [block.visit i pass] := by
  have visits := visitsTo_walk_closed once
  have mem : block.visit i pass ∈ block.visitsTo i block.spec.runs := List.mem_map_of_mem (List.mem_range.2 within)
  have count : (Segment.closed block).walk.count (block.visit i pass) = 1 := by
    rw [← List.count_eq_one_of_mem (block.nodup_visitsTo i _) mem, ← visits, visitsTo]
    exact (List.count_filter (by simp [Block.visit])).symm
  rw [List.filter_beq, count]
  rfl

variable {instruction : Instruction} {directory : String} {use : DirEntry → Call} {entries : List DirEntry}

/-- In a pass the entry is used whose turn it is. -/
theorem touch?_of_pass (step : script.steps[i]? = some (.run instruction))
    (cycles : instruction.cycles? = some (directory, use)) {host : Host} (files : host.filesOf directory = .ok entries)
    (block : Block) (pass : Nat) :
    script.touch? host (block.visit i pass) = (entryInTurn? entries pass).map use := by
  have here : script.steps[(block.visit i pass).index]? = some (.run instruction) := step
  rw [touch?_of_step here, Instruction.touch?_of_cycles cycles, Host.fileInTurn?, files]
  rfl

/-- **A loop goes through a directory in turn.** Where a run comes to a closed loop and is not cut in it, a step of it
that uses the files of a directory is visited once in each of its passes, which are as many as its count asks for. The
passes use the entries of the directory in the order of their folded names, each the next, and so fairly
(`UsedInTurn`); these are the files that the run touches at the step. -/
theorem closed_loop_cycles (closed : .closed block ∈ segmentsFrom 0 none script.steps) (member : i ∈ block.members)
    (step : script.steps[i]? = some (.run instruction)) (cycles : instruction.cycles? = some (directory, use))
    (files : stage.host.filesOf directory = .ok entries) (listed : entries ≠ [])
    (reached : ∃ visit ∈ (script.run setting stage).visits.toList, visit.index ∈ block.members)
    (uncut : ∀ j ∈ cutAt? (script.run setting stage).outcome, j ∉ block.members) :
    let touchedIn (p : Visit → Bool) :=
      ((script.runTrace setting stage).filter fun episode => p episode.visit).flatMap Episode.touched
    visitsTo i (script.run setting stage).visits.toList = (List.range block.spec.runs).map (block.visit i) ∧
      (block.spec.CountFits → IsLeast {k | 1 ≤ k ∧ block.spec.MetBy k} block.spec.runs) ∧
      (∃ used : List DirEntry, used.length = block.spec.runs ∧ UsedInTurn entries used ∧
        touchedIn (·.index == i) = used.map use ∧
        ∀ pass < block.spec.runs,
          ∃ entry, used[pass]? = some entry ∧ touchedIn (· == block.visit i pass) = [use entry]) ∧
      (sortEntries entries).Perm entries ∧
      (sortEntries entries).Pairwise (fun a b => a.foldedName ≤ b.foldedName) ∧
      ∀ counter : Int, turn counter entries.length < entries.length := by
  intro touchedIn
  have once := count_member closed member
  have turns := touch?_of_pass step cycles files block
  have passed (p : Visit → Bool) (own : ∀ visit, p visit = true → visit.index = i) :=
    filter_of_passage closed reached uncut p fun visit chosen => own visit chosen ▸ member
  obtain ⟨visits, touched⟩ := passed (·.index == i) (by simp)
  have walk : (Segment.closed block).walk.filter (·.index == i) = block.visitsTo i block.spec.runs :=
    visitsTo_walk_closed once
  refine ⟨visits.trans walk, ?fits, ⟨cycled entries block.spec.runs, length_cycled listed _,
    usedInTurn_cycled listed _, ?touched, ?each⟩, sortEntries_perm entries, ?order, ?below⟩
  case fits =>
    intro fits
    rw [block.spec.runs_eq_rounds fits]
    exact block.spec.isLeast_rounds
  case touched =>
    have all : touchedIn (·.index == i) = _ := touched
    rw [all, walk, Block.visitsTo, List.filterMap_map, cycled, List.map_filterMap]
    exact List.filterMap_congr fun pass _ => turns pass
  case each =>
    intro pass within
    obtain ⟨entry, turn⟩ := exists_entryInTurn listed (pass : Int)
    have here : touchedIn (· == block.visit i pass) = _ :=
      (passed (· == block.visit i pass) fun visit same => congrArg Visit.index (beq_iff_eq.1 same)).2
    refine ⟨entry, ?_, ?_⟩
    · rw [getElem?_cycled listed within, ← entryInTurn?_natCast, turn]
    · rw [here, filter_walk_closed once within, List.filterMap_cons, turns, turn]
      rfl
  case order => exact (pairwise_sortEntries entries).imp fun le => Listing.le_iff.1 le
  case below =>
    intro counter
    exact turn_lt counter (List.length_pos_of_ne_nil listed)

/-- Going through a directory with files does not fail where the host refuses nothing. -/
theorem completed_of_cycles {visits : List Visit}
    (plain : ∀ visit ∈ visits, ∃ instruction, script.steps[visit.index]? = some (.run instruction) ∧
      (instruction.kind = .loop ∨ instruction.kind = .loopEnd ∨ ∃ use, instruction.cycles? = some (directory, use)))
    (files : stage.host.filesOf directory = .ok entries) (listed : entries ≠ []) (works : stage.host.failing = none) :
    (script.follow setting visits stage).outcome = .ok .completed := by
  -- What the next visits need is that the host is set up as at the start.
  apply completed_of_able (P := fun s : Stage => s.host.setup = stage.host.setup) _ rfl
  intro visit made
  obtain ⟨instruction, step, loops | ends | ⟨use, cycles⟩⟩ := plain visit made
  · obtain ⟨spec, rfl⟩ := Instruction.kind_eq_loop_iff.1 loops
    exact ⟨.loop spec, step, by simp [Instruction.kind], fun s kept => ⟨s, rfl, kept⟩⟩
  · obtain rfl := Instruction.kind_eq_loopEnd_iff.1 ends
    exact ⟨.loopEnd, step, by simp [Instruction.kind], fun s kept => ⟨s, rfl, kept⟩⟩
  · refine ⟨instruction, step, ?_, ?_⟩
    · intro finish
      cases instruction <;> simp [Instruction.cycles?, Instruction.kind] at cycles finish
    · intro s kept
      have able : s.host.failing = none := by rw [← s.host.failing_setup, kept, Host.failing_setup, works]
      have same : s.host.filesOf directory = .ok entries := by
        rw [← s.host.filesOf_setup, kept, Host.filesOf_setup, files]
      obtain ⟨entry, turn⟩ := exists_entryInTurn listed (Spot.counter ⟨visit.index, visit.frame⟩)
      have turn' : s.host.fileInTurn? directory (Spot.counter ⟨visit.index, visit.frame⟩) = some entry := by
        rw [Host.fileInTurn?, same]
        exact turn
      obtain ⟨millis, done⟩ := Stage.run_of_cycles cycles (by simp [able]) turn'
      exact ⟨_, done, kept⟩

/-- The loop of a script that is nothing else. -/
def loopOfFive : Block where
  marker := 0
  spec := { count := some (.ofNat 5), start := none }
  members := [0, 1, 2]

/-- Five passes over a directory. -/
def fivePasses : Script where
  steps := [.run (.loop loopOfFive.spec), .run (.loopLoad "cats"), .run .loopEnd]

/-- Three files are loaded in five passes, in the fourth the same as in the first. -/
theorem closed_loop_cycles_fivePasses :
    let setting : Setting := { resolver := Settings.default.resolver .empty 64, settings := .default }
    let host : Host := { Host.ofPictures "/pics" with listings := [("cats", ["b.png", "A.png", "c.png"])] }
    let stage := Stage.ofHost host (.ofSource fun _ => 0) .empty ""
    let loaded := ((fivePasses.runTrace setting stage).filter (·.visit.index == 1)).flatMap Episode.touched
    ∃ entries used : List DirEntry, host.filesOf "cats" = .ok entries ∧
      entries.map DirEntry.name = ["b.png", "A.png", "c.png"] ∧ loaded = used.map (fun entry => .loadImage entry.path) ∧
      used.length = 5 ∧ used[3]? = used[0]? ∧ ((used.drop 1).take 3).Perm entries := by
  intro setting host stage loaded
  let entries : List DirEntry := ["b.png", "A.png", "c.png"].map fun name =>
    { name, path := FilePath.join (FilePath.join "/pics" "cats") name }
  have files : stage.host.filesOf "cats" = .ok entries := rfl
  have listed : entries ≠ [] := List.cons_ne_nil _ _
  have cycles : (Instruction.loopLoad "cats").cycles? = some ("cats", fun entry => .loadImage entry.path) := rfl
  have route : fivePasses.route .start = (Segment.closed loopOfFive).walk := by
    rw [route_start_eq_segments]
    simp [fivePasses, segmentsFrom, loopOfFive, Block.extend]
  have completed : (fivePasses.follow setting (fivePasses.route .start) stage).outcome = .ok .completed := by
    apply completed_of_cycles _ files listed rfl
    intro visit made
    rw [route] at made
    have member : visit.index ∈ [0, 1, 2] := index_mem_of_mem_walk made
    obtain first | inner | last : visit.index = 0 ∨ visit.index = 1 ∨ visit.index = 2 := by simpa using member
    · exact ⟨.loop loopOfFive.spec, by rw [first]; rfl, .inl rfl⟩
    · exact ⟨.loopLoad "cats", by rw [inner]; rfl, .inr (.inr ⟨_, cycles⟩)⟩
    · exact ⟨.loopEnd, by rw [last]; rfl, .inr (.inl rfl)⟩
  have course := course_run fivePasses setting stage
  have outcome : (fivePasses.run setting stage).outcome = .ok .completed :=
    (congrArg Course.outcome course).trans completed
  have visits : (fivePasses.run setting stage).visits.toList = fivePasses.route .start :=
    (congrArg Course.visits course).trans ((follow_visits _ stage (isVisitable_of_mem_route .start)).2 completed)
  have closed : .closed loopOfFive ∈ segmentsFrom 0 none fivePasses.steps := List.mem_singleton_self _
  have member : 1 ∈ loopOfFive.members := by decide
  have reached : ∃ visit ∈ (fivePasses.run setting stage).visits.toList, visit.index ∈ loopOfFive.members := by
    rw [visits, route]
    exact ⟨loopOfFive.visit 0 0, by decide +kernel, by decide⟩
  have uncut : ∀ j ∈ cutAt? (fivePasses.run setting stage).outcome, j ∉ loopOfFive.members := by
    intro j cut
    rw [outcome] at cut
    cases cut
  obtain ⟨-, -, ⟨used, length, inTurn, touched, -⟩, -⟩ :=
    closed_loop_cycles closed member rfl cycles files listed reached uncut
  have five : loopOfFive.spec.runs = 5 := by decide +kernel
  rw [five] at length
  have again : used[3]? = used[0]? := by
    rw [inTurn.each 3 (by omega), inTurn.each 0 (by omega)]
    have turns : 3 % entries.length = 0 % entries.length := by decide
    rw [turns]
  have window : 1 + entries.length ≤ used.length := by
    rw [length]
    decide
  exact ⟨entries, used, files, rfl, touched, length, again, inTurn.window 1 window⟩

end Script

end CanvasScript
