import CanvasScript.Proofs.Run.Blocks
import CanvasScript.Proofs.Run.Reports
import CanvasScript.Proofs.Script.Files
import CanvasScript.Proofs.Session.Opening

/-!
# Positions that are reported

A run of a valid text reports positions: of the entry that failed, of the `end` it came to and
of the entries that were put right. At each of them the text has an entry of the kind that is
reported with it (`Session.reported_positions_name_entries`). A position is passed on from the
text to the step and from there, over all jumps, to the result of the run
(`Script.pointsInto_of_reports`).
-/

namespace CanvasScript

open Json (Value)

/-- The entry at a position is an object with one field, under the key of a kind. -/
def NamesEntry (entries : List Value) (index : Nat) (kind : Kind) : Prop :=
  ∃ inside : index < entries.length, ∃ v, entries[index] = .object [(kind.key, v)]

/-- What is done in place of something that failed, by the kind of the entry. -/
inductive Recovery.Fits : Kind → Recovery → Prop where
  | face : Fits .faceZoom .resetZoom
  | answer : Fits .askZoom .resetZoom
  | mask : Fits .maskAsk .emptyMask

theorem Instruction.fits_of_recovery? {instruction : Instruction} {recovery : Recovery}
    (recovers : instruction.recovery? = some recovery) : recovery.Fits instruction.kind := by
  cases instruction with
  | faceZoom =>
    cases recovers
    exact .face
  | askZoom query =>
    cases recovers
    exact .answer
  | maskAsk query =>
    cases recovers
    exact .mask
  | _ => cases recovers

/-- An event stands at an entry of its kind, which recovers so. -/
def RecoveryEvent.PointsInto (entries : List Value) (event : RecoveryEvent) : Prop :=
  NamesEntry entries event.index event.kind ∧ event.recovery.Fits event.kind

/-- All positions of a result are those of entries of the kinds that stand with them. -/
structure RunResult.PointsInto (entries : List Value) (result : RunResult) : Prop where
  failed : ∀ e, result.outcome = .error e → NamesEntry entries e.index e.kind
  ended : ∀ i, result.outcome = .ok (.ended i) → NamesEntry entries i .finish
  recovered : ∀ event ∈ result.stage.recoveries.toList, event.PointsInto entries

namespace Script

variable {instructions : List Instruction} {entries : List Value}

/-- An instruction stands in the text where its step stands in the script. -/
theorem namesEntry_of_step (written : List.Forall₂ Instruction.WrittenAs instructions entries) {i : Nat}
    {instruction : Instruction} (step : (instructions.map Step.run)[i]? = some (.run instruction)) :
    NamesEntry entries i instruction.kind := by
  rw [List.getElem?_map] at step
  obtain ⟨other, here, same⟩ := Option.map_eq_some_iff.1 step
  obtain rfl : other = instruction := Step.run.inj same
  obtain ⟨inside, here⟩ := List.getElem?_eq_some_iff.1 here
  have inside' : i < entries.length := written.length_eq ▸ inside
  obtain ⟨v, entry, -⟩ : Instruction.WrittenAs instructions[i] entries[i] := written.get inside inside'
  rw [here] at entry
  exact ⟨inside', v, entry⟩

/-- What a script reports it reports of the entries it was decoded from. -/
theorem pointsInto_of_reports (written : List.Forall₂ Instruction.WrittenAs instructions entries)
    {result : RunResult} (reports : Reports { steps := instructions.map .run } result) :
    result.PointsInto entries := by
  refine ⟨fun e failed => ?failed, fun i ended => ?ended, fun event mem => ?recovered⟩
  case failed =>
    obtain ⟨instruction, step, kind, -⟩ := reports.failed e failed
    rw [← kind]
    exact namesEntry_of_step written step
  case ended => exact namesEntry_of_step written (reports.ended i ended)
  case recovered =>
    obtain ⟨instruction, step, kind, recovers⟩ := reports.recovered event mem
    unfold RecoveryEvent.PointsInto
    rw [← kind]
    exact ⟨namesEntry_of_step written step, Instruction.fits_of_recovery? recovers⟩

end Script

namespace Session

/-- **Positions name their entries.** A valid text is read as entries, and at every position
that running it reports there is an entry of the kind reported with it: of a failure, of the
end, and of what was put right, told in the report or lost with a failure. The kind of an
instruction is always the one that it was decoded as. -/
theorem reported_positions_name_entries (session : Session) {text : String}
    (valid : (Preflight.ofText text).valid = true) (host : Host) :
    ∃ entries script, readEntries text = .ok entries ∧ Script.decode entries = .ok script ∧
      (∀ e, ((session.run text).run host).1 = .error (.run e) → NamesEntry entries e.index e.kind) ∧
      (∀ report, ((session.run text).run host).1 = .ok report →
        (∀ i, report.summary.outcome = .ended i → NamesEntry entries i .finish) ∧
          ∀ event ∈ report.summary.stage.recoveries.toList, event.PointsInto entries) ∧
      (∀ stage, Stage.open? host session.draws = .ok stage →
        (script.run session.setting stage).PointsInto entries) ∧
      ∀ kind v instruction, Instruction.decode kind v = .ok instruction → instruction.kind = kind := by
  obtain ⟨entries, read, valid_entries⟩ := Preflight.entries_of_valid valid
  obtain ⟨instructions, decoded, written⟩ := Script.exists_instructions_of_valid valid_entries
  have points (stage : Stage) (opened : Stage.open? host session.draws = .ok stage) :
      (Script.run { steps := instructions.map .run } session.setting stage).PointsInto entries := by
    obtain rfl := Stage.eq_of_open? opened
    exact Script.pointsInto_of_reports written (Script.reports_run _ session.setting host session.draws _ _)
  refine ⟨entries, _, read, decoded, fun e failed => ?failed, fun report succeeded => ?reported, points,
    fun _ _ _ => kind_of_decode⟩
  case failed =>
    cases opened : Stage.open? host session.draws with
    | error closed =>
      rw [run_of_not_opened valid read decoded opened] at failed
      cases failed
    | ok stage => exact (points stage opened).failed e (outcome_of_failed valid read decoded opened failed)
  case reported =>
    cases opened : Stage.open? host session.draws with
    | error closed =>
      rw [run_of_not_opened valid read decoded opened] at succeeded
      cases succeeded
    | ok stage =>
      have summed := summary_of_succeeded valid read decoded opened succeeded
      obtain ⟨ending, outcome, same⟩ := RunResult.summary_eq_ok_iff.1 summed
      rw [same]
      refine ⟨fun i ends => (points stage opened).ended i ?_, (points stage opened).recovered⟩
      rw [outcome, ← ends]

/-- A search for a face in a loop of two passes, and a directory without files behind it. -/
def searchedTwice : String :=
  "[\x7b\"loop\":\x7b\"loop\":2\x7d\x7d,\x7b\"faceZoom\":1\x7d,\x7b\"loopEnd\":1\x7d,\x7b\"loopLoad\":\"none\"\x7d]"

/-- What a course reports: the entry that failed, and those that were put right. -/
def Course.reported (course : Course) : Option (Nat × Kind) × List (Nat × Kind) :=
  (match course.outcome with
    | .error e => some (e.index, e.kind)
    | .ok _ => none,
  course.stage.recoveries.toList.map fun event => (event.index, event.kind))

/-- In both passes the search is put right, and then the last entry fails. -/
theorem reported_positions_name_entries_searchedTwice :
    (Preflight.ofText searchedTwice).valid = true ∧
      ∃ entries script stage e, readEntries searchedTwice = .ok entries ∧
        ((sample.run searchedTwice).run (.ofPictures "/pics")).1 = .error (.run e) ∧
        e.index = 3 ∧ e.kind = .loopLoad ∧ NamesEntry entries 3 .loopLoad ∧
        Stage.open? (.ofPictures "/pics") sample.draws = .ok stage ∧
        (Script.run script sample.setting stage).stage.recoveries.toList.map RecoveryEvent.index = [1, 1] ∧
        NamesEntry entries 1 .faceZoom := by
  have valid : (Preflight.ofText searchedTwice).valid = true := by decide +kernel
  have reported : ((readEntries searchedTwice).toOption.bind fun entries => (Script.decode entries).toOption).map
      (fun script => Course.reported
        (script.follow sample.setting ((segmentsFrom 0 none script.steps).flatMap Segment.walk)
          (.ofHost (.ofPictures "/pics") sample.draws (Host.ofPictures "/pics").configuration ""))) =
      some (some (3, .loopLoad), [(1, .faceZoom), (1, .faceZoom)]) := by
    decide +kernel
  have opened : Stage.open? (.ofPictures "/pics") sample.draws =
      .ok (.ofHost (.ofPictures "/pics") sample.draws (Host.ofPictures "/pics").configuration "") := rfl
  -- From here on the stage and the host are any with these properties, so that nothing is computed again.
  generalize Stage.ofHost (.ofPictures "/pics") sample.draws (Host.ofPictures "/pics").configuration "" = stage
    at reported opened
  generalize Host.ofPictures "/pics" = host at opened ⊢
  obtain ⟨entries, script, read, decoded, failed, -, points, -⟩ :=
    reported_positions_name_entries sample valid host
  simp only [read, decoded, Except.toOption, Option.bind_some, Option.map_some, Option.some.injEq] at reported
  rw [← Script.course_run_eq_segments] at reported
  have recovered := congrArg Prod.snd reported
  have first := congrArg Prod.fst reported
  cases outcome : (script.run sample.setting stage).outcome with
  | ok ending => simp [Course.reported, RunResult.course, outcome] at first
  | error e =>
    obtain ⟨index, kind⟩ : e.index = 3 ∧ e.kind = .loopLoad := by
      simpa [Course.reported, RunResult.course, outcome] using first
    obtain ⟨told, run⟩ := run_of_opened valid read decoded opened
    have ends : ((sample.run searchedTwice).run host).1 = .error (.run e) := by
      rw [run, RunResult.summary, outcome]
      rfl
    have named := failed e ends
    rw [index, kind] at named
    have events : (script.run sample.setting stage).stage.recoveries.toList.map
        (fun event => (event.index, event.kind)) = [(1, .faceZoom), (1, .faceZoom)] := recovered
    obtain ⟨event, mem, same⟩ : ∃ event ∈ (script.run sample.setting stage).stage.recoveries.toList,
        (event.index, event.kind) = (1, .faceZoom) := by
      refine List.mem_map.1 ?_
      rw [events]
      exact List.mem_cons_self
    obtain ⟨index', kind'⟩ := Prod.ext_iff.1 same
    have found := ((points stage opened).recovered event mem).1
    rw [show event.index = 1 from index', show event.kind = .faceZoom from kind'] at found
    have indices := congrArg (List.map Prod.fst) events
    rw [List.map_map] at indices
    exact ⟨valid, entries, script, stage, e, read, ends, index, kind, named, opened, indices, found⟩

end Session

end CanvasScript
