import CanvasScript.Proofs.Run.Blocks
import CanvasScript.Proofs.Run.Trace
import CanvasScript.Proofs.Script.Files
import CanvasScript.Proofs.Session.Opening

/-!
# Preflights account for files

The files that running a text touches are those that its preflight lists
(`Session.preflight_accounts_for_files`). Every call that touches a file does with it
what its entry says (`FileUse.Explains`); where nothing is repeated or cut off there is
one such call for every file of the list, in order, and as many renders as are told.
-/

namespace CanvasScript

open FilePath (join numbered url)
open Json (Value)

/-- A file is listed in a directory under the pictures, where its path is its name. -/
structure Host.Lists (host : Host) (directory : String) (entry : DirEntry) : Prop where
  listed : ∃ entries, host.filesOf directory = .ok entries ∧ entry ∈ entries
  path : entry.path = join (join host.pictures directory) entry.name

/-- All files of a directory have their name as path there. -/
theorem Host.path_of_mem_filesOf {host : Host} {directory : String} {entries : List DirEntry} {entry : DirEntry}
    (files : host.filesOf directory = .ok entries) (mem : entry ∈ entries) :
    entry.path = join (join host.pictures directory) entry.name := by
  unfold filesOf at files
  have named : ∃ names : List String,
      entries = names.map fun name => { name, path := join (join host.pictures directory) name } := by
    split at files
    · exact ⟨_, (Except.ok.inj files).symm⟩
    · dsimp only at files
      split at files
      · exact ⟨_, (Except.ok.inj files).symm⟩
      · cases files
  obtain ⟨names, rfl⟩ := named
  obtain ⟨name, -, rfl⟩ := List.mem_map.1 mem
  rfl

theorem Host.lists_of_fileInTurn {host : Host} {directory : String} {counter : Int} {entry : DirEntry}
    (turn : host.fileInTurn? directory counter = some entry) : host.Lists directory entry := by
  unfold fileInTurn? at turn
  split at turn
  · rename_i entries files
    have sorted : entry ∈ sortEntries entries := List.mem_of_getElem? turn
    have mem : entry ∈ entries := (List.mergeSort_perm _ _).mem_iff.1 sorted
    exact ⟨⟨entries, files, mem⟩, path_of_mem_filesOf files mem⟩
  · cases turn

/-- A call does with a file what the entry that names it says. -/
def FileUse.Explains (host : Host) (use : FileUse) (call : Call) : Prop :=
  match use.kind, use.direction with
  | .canvasSave, .save => call = .saveImage (join host.pictures use.path) false
  | .loopSave, .save => ∃ n, call = .saveImage (join host.pictures (numbered use.path n)) false
  | .canvasLoad, .load => call = .loadImage (join host.pictures use.path)
  | .moodboardAdd, .load => call = .addToMoodboard [url (join host.pictures use.path)]
  | .maskLoad, .load => call = .loadMaskFromSrc (url (join host.pictures use.path))
  | .loopLoad, .load => ∃ entry, host.Lists use.path entry ∧ call = .loadImage entry.path
  | .loopAddMoodboard, .load => ∃ entry, host.Lists use.path entry ∧ call = .addToMoodboard [url entry.path]
  | _, _ => False

/-- What an instruction touches is explained by the use that it names. -/
theorem Instruction.explains_of_touch? {instruction : Instruction} {spot : Spot} {host : Host} {call : Call}
    (touched : instruction.touch? spot host = some call) (index : Nat) :
    ∃ use, instruction.fileUse? index = some use ∧ use.Explains host call := by
  cases instruction with
  | canvasSave path | canvasLoad path | moodboardAdd path | maskLoad path =>
    cases touched
    exact ⟨_, rfl, rfl⟩
  | loopSave path =>
    cases touched
    exact ⟨_, rfl, spot.number, rfl⟩
  | loopLoad directory | loopAddMoodboard directory =>
    obtain ⟨entry, turn, rfl⟩ := Option.map_eq_some_iff.1 touched
    exact ⟨_, rfl, entry, Host.lists_of_fileInTurn turn, rfl⟩
  | _ => cases touched

/-- A use is named just where a path is. -/
theorem Instruction.isSome_fileUse? (instruction : Instruction) (index : Nat) :
    (instruction.fileUse? index).isSome = instruction.path?.isSome := by
  cases instruction <;> rfl

namespace Script

variable {script : Script} {host : Host} {instructions : List Instruction} {entries : List Value}

/-- What a visit touches is explained by a file of the list. -/
theorem exists_use_of_touch? (written : List.Forall₂ Instruction.WrittenAs instructions entries)
    (steps : script.steps = instructions.map .run) {visit : Visit} {call : Call}
    (touched : script.touch? host visit = some call) :
    ∃ use ∈ Preflight.filesFrom 0 entries, use.Explains host call := by
  unfold touch? at touched
  split at touched
  · rename_i instruction step
    rw [steps, List.getElem?_map] at step
    obtain ⟨other, here, same⟩ := Option.map_eq_some_iff.1 step
    obtain rfl : other = instruction := Step.run.inj same
    obtain ⟨use, used, explains⟩ := Instruction.explains_of_touch? touched (0 + visit.index)
    exact ⟨use, Preflight.mem_filesFrom written here used, explains⟩
  · cases touched

/-- Visits to all instructions in order touch the files listed, one for each. -/
theorem explains_in_order (written : List.Forall₂ Instruction.WrittenAs instructions entries) {index : Nat}
    (ahead : script.steps.drop index = instructions.map .run) {visits : List Visit}
    (order : visits.map Visit.index = instructionsFrom index (instructions.map .run))
    (named : ∀ visit ∈ visits, (script.touch? host visit).isSome = (script.path? visit).isSome) :
    List.Forall₂ (FileUse.Explains host) (Preflight.filesFrom index entries)
      (visits.filterMap (script.touch? host)) := by
  induction written generalizing index visits with
  | nil =>
    obtain rfl := List.map_eq_nil_iff.1 order
    exact .nil
  | @cons instruction entry instructions entries head tail ih =>
    obtain ⟨visit, later, rfl, here, behind⟩ := List.map_eq_cons_iff.1 order
    obtain ⟨here_named, later_named⟩ := List.forall_mem_cons.1 named
    have rest := ih (drop_succ_of_drop ahead) behind later_named
    have step : script.steps[visit.index]? = some (.run instruction) := by
      rw [here]
      exact List.getElem?_eq_some_iff.2 (getElem_of_drop ahead)
    rw [Preflight.filesFrom, Preflight.fileUse?_of_writtenAs head, List.filterMap_cons]
    cases touched : script.touch? host visit with
    | some call =>
      obtain ⟨use, used, explains⟩ := Instruction.explains_of_touch? (touch?_of_step step host ▸ touched) index
      rw [used]
      exact .cons explains rest
    | none =>
      have nameless : instruction.path?.isSome = false := by
        rw [← path?_of_step step, ← here_named, touched]
        rfl
      have unused : instruction.fileUse? index = none := by
        rw [← Option.not_isSome_iff_eq_none, instruction.isSome_fileUse?, nameless]
        exact Bool.false_ne_true
      rw [unused]
      exact rest

/-- Visits to all instructions in order render as often as there are prompts. -/
theorem countP_renders {index : Nat} (ahead : script.steps.drop index = instructions.map .run) {visits : List Visit}
    (order : visits.map Visit.index = instructionsFrom index (instructions.map .run)) :
    visits.countP script.renders = instructions.countP fun instruction => decide (instruction.kind = .prompt) := by
  induction instructions generalizing index visits with
  | nil =>
    obtain rfl := List.map_eq_nil_iff.1 order
    rfl
  | cons instruction instructions ih =>
    obtain ⟨visit, later, rfl, here, behind⟩ := List.map_eq_cons_iff.1 order
    have rest := ih (drop_succ_of_drop ahead) behind
    have step : script.steps[visit.index]? = some (.run instruction) := by
      rw [here]
      exact List.getElem?_eq_some_iff.2 (getElem_of_drop ahead)
    rw [List.countP_cons, List.countP_cons, rest, renders_of_step step]

end Script

namespace Session

variable {session : Session} {text : String} {entries : List Value} {script : Script} {host : Host}

/-- Entries without the end of a loop and of the run. -/
def IsStraight (entries : List Value) : Prop :=
  Kind.loopEnd ∉ Preflight.kinds entries ∧ Kind.finish ∉ Preflight.kinds entries

/-- Straight entries are not written as the end of a loop or of the run. -/
theorem IsStraight.not_mem {instructions : List Instruction} (straight : IsStraight entries)
    (written : List.Forall₂ Instruction.WrittenAs instructions entries) :
    .run .loopEnd ∉ instructions.map Step.run ∧ .run .finish ∉ instructions.map Step.run := by
  have kind_mem {instruction : Instruction} (mem : .run instruction ∈ instructions.map Step.run) :
      instruction.kind ∈ Preflight.kinds entries := by
    obtain ⟨other, within, same⟩ := List.mem_map.1 mem
    obtain rfl : other = instruction := Step.run.inj same
    rw [Preflight.kinds_eq written]
    exact List.mem_map_of_mem within
  exact ⟨fun mem => straight.1 (kind_mem mem), fun mem => straight.2 (kind_mem mem)⟩

/-- **Preflights account for files.** Every call of a run that touches a file does what is
listed of some entry. Without the end of a loop and of the run, a run that succeeds makes
one such call for every file of the list, in its order, and renders as often as told. -/
theorem preflight_accounts_for_files (session : Session) {text : String}
    (valid : (Preflight.ofText text).valid = true) (host : Host) :
    ∃ made, ((session.run text).run host).2.calls.toList = host.calls.toList ++ made ∧
      (∀ call ∈ made, call.touchesFile = true →
        ∃ use ∈ (Preflight.ofText text).files, use.Explains host call) ∧
      ∀ entries, readEntries text = .ok entries → IsStraight entries →
        ∀ report, ((session.run text).run host).1 = .ok report →
          List.Forall₂ (FileUse.Explains host) (Preflight.ofText text).files (made.filter Call.touchesFile) ∧
            report.summary.stage.renders = (Preflight.ofText text).renders := by
  obtain ⟨entries, read, valid_entries⟩ := Preflight.entries_of_valid valid
  obtain ⟨instructions, decoded, written⟩ := Script.exists_instructions_of_valid valid_entries
  have listed : Preflight.ofText text = Preflight.ofEntries entries := by
    rw [Preflight.ofText, read]
  cases opened : Stage.open? host session.draws with
  | error e =>
    rw [run_of_not_opened valid read decoded opened]
    refine ⟨[], by simp, List.forall_mem_nil _, fun _ _ _ report succeeded => ?_⟩
    cases succeeded
  | ok stage =>
    obtain ⟨told, run⟩ := run_of_opened valid read decoded opened
    obtain ⟨rfl, unrendered⟩ := Stage.host_of_open? opened
    have accounts := Script.accounts_of_run { steps := instructions.map .run } session.setting stage
    obtain ⟨missed, touched, -, whole⟩ := accounts.touched_calls
    rw [run, listed]
    refine ⟨_, accounts.calls, ?explained, ?ordered⟩
    case explained =>
      intro call mem touches
      have within := List.mem_append_left missed (List.mem_filter.2 ⟨mem, touches⟩)
      rw [touched] at within
      obtain ⟨visit, -, told⟩ := List.mem_filterMap.1 within
      exact Script.exists_use_of_touch? written rfl told
    case ordered =>
      intro others same straight report succeeded
      obtain rfl : entries = others := Except.ok.inj (read.symm.trans same)
      have summed : (Script.run { steps := instructions.map .run } session.setting stage).summary =
          .ok report.summary := by
        revert succeeded
        cases (Script.run { steps := instructions.map .run } session.setting stage).summary with
        | error e => nofun
        | ok summary =>
          rintro ⟨⟩
          rfl
      obtain ⟨ok, same_stage⟩ := RunResult.stage_of_summary summed
      obtain ⟨noLoopEnd, noFinish⟩ := straight.not_mem written
      have visits := Script.visits_of_run noFinish ok
      have order := Script.index_route_start noLoopEnd
      have named := accounts.named ok
      have renders := accounts.renders ok
      rw [whole ok, List.append_nil] at touched
      rw [visits] at touched named renders
      rw [touched, same_stage]
      refine ⟨Script.explains_in_order written List.drop_zero order named, ?_⟩
      calc (Script.run { steps := instructions.map .run } session.setting stage).stage.renders
        _ = stage.renders + _ := renders
        _ = instructions.countP fun instruction => decide (instruction.kind = .prompt) := by
          rw [unrendered, Nat.zero_add, Script.countP_renders List.drop_zero order]
        _ = (Preflight.ofEntries entries).renders := (Preflight.countP_isRender written).symm

/-- A text that loads a file, renders and saves under a number. -/
def renderedText : String :=
  "[\x7b\"canvasLoad\":\"in.png\"\x7d,\x7b\"prompt\":\"a sky\"\x7d,\x7b\"loopSave\":\"out.png\"\x7d]"

/-- Running it succeeds, touches two files as listed and renders once. -/
theorem preflight_accounts_for_files_renderedText :
    (Preflight.ofText renderedText).valid = true ∧
      ∃ report made, ((sample.run renderedText).run (.ofPictures "/pics")).1 = .ok report ∧
        ((sample.run renderedText).run (.ofPictures "/pics")).2.calls.toList = made ∧
        List.Forall₂ (FileUse.Explains (.ofPictures "/pics")) (Preflight.ofText renderedText).files
          (made.filter Call.touchesFile) ∧
        (made.filter Call.touchesFile).length = 2 ∧ report.summary.stage.renders = 1 := by
  have valid : (Preflight.ofText renderedText).valid = true := by decide +kernel
  have two : (Preflight.ofText renderedText).files.length = 2 := by decide +kernel
  have one : (Preflight.ofText renderedText).renders = 1 := by decide +kernel
  have kinds : (readEntries renderedText).toOption.map Preflight.kinds = some [.canvasLoad, .prompt, .loopSave] := by
    decide +kernel
  have completes : ((readEntries renderedText).toOption.bind fun entries => (Script.decode entries).toOption).map
      (fun script => (script.follow sample.setting ((segmentsFrom 0 none script.steps).flatMap Segment.walk)
        (.ofHost (.ofPictures "/pics") sample.draws (Host.ofPictures "/pics").configuration "")).outcome.isOk) =
      some true := by
    decide +kernel
  have opened : Stage.open? (.ofPictures "/pics") sample.draws =
      .ok (.ofHost (.ofPictures "/pics") sample.draws (Host.ofPictures "/pics").configuration "") := rfl
  have fresh : (Host.ofPictures "/pics").calls.toList = [] := rfl
  -- From here on the host is any with these properties, so that nothing is computed again.
  generalize Stage.ofHost (.ofPictures "/pics") sample.draws (Host.ofPictures "/pics").configuration "" = stage
    at completes opened
  generalize Host.ofPictures "/pics" = host at opened fresh ⊢
  obtain ⟨entries, read, -⟩ := Preflight.entries_of_valid valid
  have straight : IsStraight entries := by
    rw [read] at kinds
    rw [IsStraight, Option.some.inj kinds]
    decide
  obtain ⟨report, succeeded⟩ := exists_report_of_followed valid opened completes
  obtain ⟨made, log, -, ordered⟩ := preflight_accounts_for_files sample valid host
  obtain ⟨files, renders⟩ := ordered entries read straight report succeeded
  rw [fresh, List.nil_append] at log
  exact ⟨valid, report, made, succeeded, log, files, files.length_eq.symm.trans two, renders.trans one⟩

end Session

end CanvasScript
