import CanvasScript.Proofs.Run.OnHost
import CanvasScript.Proofs.Run.Reports
import Mathlib.Data.Finset.Insert
import Mathlib.Data.Nat.Count

/-!
# Steps that can be left out

Notes and steps that are passed over can be left out of a script (`Script.Omission`). The
steps that are left move forward, each to its place, and loops and what is reported of a
run move with them: step for step the shorter script does what the whole one does
(`Omission.runs_shorter`), as an instruction does the same wherever it stands
(`Stage.Composed.moved`). So the two scripts do the same to every host
(`Omission.run_shorter`).
-/

namespace CanvasScript

section Moved

variable (place : Nat → Nat)

def LoopFrame.moved (frame : LoopFrame) : LoopFrame := { frame with marker := place frame.marker }

def RecoveryEvent.moved (event : RecoveryEvent) : RecoveryEvent := { event with index := place event.index }

def RunError.moved (e : RunError) : RunError := { e with index := place e.index }

def RunOutcome.moved : RunOutcome → RunOutcome
  | completed => completed
  | ended i => ended (place i)

def Visit.moved (visit : Visit) : Visit where
  index := place visit.index
  frame := visit.frame.map (LoopFrame.moved place)

def Spot.moved (spot : Spot) : Spot where
  index := place spot.index
  frame := spot.frame.map (LoopFrame.moved place)

theorem Spot.counter_moved (spot : Spot) : (spot.moved place).counter = spot.counter := by
  rw [counter, moved, Option.map_map]
  rfl

theorem Spot.number_moved (spot : Spot) : (spot.moved place).number = spot.number := by
  rw [number, counter_moved, moved, Option.map_map]
  rfl

/-- The stage with its recoveries at other positions. -/
def Stage.moved (s : Stage) : Stage := { s with recoveries := s.recoveries.map (RecoveryEvent.moved place) }

end Moved

/-- What an instruction does at its new place is what it does at its old one. -/
theorem Stage.Composed.moved {place : Nat → Nat} {instruction : Instruction} {i j : Nat} {x y : StageAction α}
    (composed : Composed instruction i j x y) (here : j = place i) (s : Stage) :
    y.run (s.moved place) = ((x.run s).1, (x.run s).2.moved place) := by
  subst here
  induction composed generalizing s with
  | pure | fail | setConfiguration | setNegativePrompt | setMask | countRender => rfl
  | read f blind =>
    have same : f (s.moved place) = f s := blind s _ _ _
    rw [Attempt.run_gets, Attempt.run_gets, same]
  | resolve z =>
    rw [run_onDraws, run_onDraws]
    rfl
  | ask | give =>
    rw [run_onHost, run_onHost]
    rfl
  | recover recovery reason own =>
    rw [Stage.recover, Stage.recover, Attempt.run_modify, Attempt.run_modify]
    simp only [Stage.moved, Array.map_push, RecoveryEvent.moved]
  | bind _ _ first second =>
    rw [Attempt.run_bind, Attempt.run_bind, first]
    rcases Attempt.run _ s with ⟨e | a, t⟩
    · rfl
    · exact second a t
  | orElse _ _ _ first second =>
    rw [Attempt.run_orElse, Attempt.run_orElse, first]
    rcases Attempt.run _ s with ⟨e | a, t⟩
    · exact second e t
    · rfl

attribute [ext] Position

/-- A step that does nothing. -/
def Step.isInert : Step → Bool
  | .skip _ | .run .note => true
  | .run _ => false

/-- The steps from a position on but for those dropped. -/
def keptFrom (dropped : Finset Nat) (index : Nat) : List Step → List Step
  | [] => []
  | step :: steps =>
    if index ∈ dropped then keptFrom dropped (index + 1) steps else step :: keptFrom dropped (index + 1) steps

/-- A choice of steps to leave out, none of which does anything. -/
structure Script.Omission (script : Script) where
  dropped : Finset Nat
  inert : ∀ i ∈ dropped, (script.steps[i]?).all Step.isInert = true

/-- A position that is named in what is known when a run is over. -/
inductive RunResult.Names (result : RunResult) : Nat → Prop where
  | failed {e : RunError} (outcome : result.outcome = .error e) : Names result e.index
  | ended {i : Nat} (outcome : result.outcome = .ok (.ended i)) : Names result i
  | recovered {event : RecoveryEvent} (mem : event ∈ result.stage.recoveries.toList) : Names result event.index
  | looping {frame : LoopFrame} (active : result.frame = some frame) : Names result frame.marker

namespace Script.Omission

variable {script : Script} (omission : script.Omission)

/-- The script that is left. -/
def shorter : Script where
  steps := keptFrom omission.dropped 0 script.steps

/-- Where a step that is kept is in the shorter script: how many are kept before it. -/
def place (i : Nat) : Nat := Nat.count (· ∉ omission.dropped) i

section Places

variable {i : Nat}

theorem place_mono : Monotone omission.place := Nat.count_monotone _

theorem place_succ_of_kept (kept : i ∉ omission.dropped) : omission.place (i + 1) = omission.place i + 1 := by
  rw [place, Nat.count_succ, if_pos kept, place]

theorem place_succ_of_dropped (drops : i ∈ omission.dropped) : omission.place (i + 1) = omission.place i := by
  rw [place, Nat.count_succ, if_neg (not_not_intro drops), place, Nat.add_zero]

/-- Behind the place of a step the shorter script has what is kept from that step on. -/
theorem drop_shorter (i : Nat) :
    omission.shorter.steps.drop (omission.place i) = keptFrom omission.dropped i (script.steps.drop i) := by
  induction i with
  | zero => rfl
  | succ i ih =>
    cases ahead : script.steps.drop i with
    | nil =>
      rw [ahead, keptFrom, List.drop_eq_nil_iff] at ih
      have nothing : script.steps.drop (i + 1) = [] := by rw [← List.tail_drop, ahead, List.tail_nil]
      rw [nothing, keptFrom, List.drop_eq_nil_iff]
      exact ih.trans (omission.place_mono (Nat.le_succ i))
    | cons step rest =>
      have onward : script.steps.drop (i + 1) = rest := by rw [← List.tail_drop, ahead, List.tail_cons]
      rw [ahead, keptFrom] at ih
      rw [onward]
      by_cases drops : i ∈ omission.dropped
      · rw [if_pos drops] at ih
        rw [omission.place_succ_of_dropped drops]
        exact ih
      · rw [if_neg drops] at ih
        rw [omission.place_succ_of_kept drops, ← List.tail_drop, ih, List.tail_cons]

/-- A step that is kept is in its place. -/
theorem getElem?_shorter (kept : i ∉ omission.dropped) :
    omission.shorter.steps[omission.place i]? = script.steps[i]? := by
  have behind := omission.drop_shorter i
  rw [← List.head?_drop, ← List.head?_drop, behind]
  cases script.steps.drop i with
  | nil => rfl
  | cons step rest => rw [keptFrom, if_neg kept, List.head?_cons, List.head?_cons]

/-- Nothing is left behind the last step. -/
theorem length_shorter_le (behind : script.steps.length ≤ i) : omission.shorter.steps.length ≤ omission.place i := by
  rw [← List.drop_eq_nil_iff, drop_shorter, List.drop_eq_nil_iff.2 behind, keptFrom]

end Places

section Positions

variable {p : Position} {instruction : Instruction}

/-- Where the shorter script is when the whole one is at a position. -/
def position (p : Position) : Position where
  pointer := omission.place p.pointer
  frame := p.frame.map (LoopFrame.moved omission.place)
  marker_le f active := by
    obtain ⟨frame, here, rfl⟩ := Option.map_eq_some_iff.1 active
    exact omission.place_mono (p.marker_le frame here)

theorem position_next_of_kept (kept : p.pointer ∉ omission.dropped) :
    omission.position p.next = (omission.position p).next :=
  Position.ext (omission.place_succ_of_kept kept) rfl

theorem position_next_of_dropped (drops : p.pointer ∈ omission.dropped) :
    omission.position p.next = omission.position p :=
  Position.ext (omission.place_succ_of_dropped drops) rfl

theorem entered_position (p : Position) (instruction : Instruction) :
    (omission.position p).entered instruction = (p.entered instruction).map (LoopFrame.moved omission.place) := by
  cases here : p.frame <;> cases instruction <;>
    simp [Position.entered, position, here, LoopFrame.start, LoopFrame.moved]

theorem spot_position (p : Position) (instruction : Instruction) :
    (omission.position p).spot instruction = (p.spot instruction).moved omission.place := by
  rw [Position.spot, entered_position]
  rfl

theorem visit_position (p : Position) (instruction : Instruction) :
    (omission.position p).visit instruction = (p.visit instruction).moved omission.place := by
  rw [Position.visit, entered_position]
  rfl

theorem endLoop_position (kept : p.pointer ∉ omission.dropped) :
    (omission.position p).endLoop = omission.position p.endLoop := by
  rcases p with ⟨pointer, frame, bound⟩
  cases frame with
  | none => exact (omission.position_next_of_kept kept).symm
  | some frame =>
    by_cases more : frame.advance.continues = true
    · have again : (frame.moved omission.place).advance.continues = true := more
      simp only [Position.endLoop, position, Option.map_some, more, again, if_true]
      rfl
    · have last : ¬(frame.moved omission.place).advance.continues = true := more
      simp only [Position.endLoop, position, Option.map_some, more, last]
      exact Position.ext (omission.place_succ_of_kept kept).symm rfl

/-- A step that is kept leads on from its place to where it leads. -/
theorem after?_position (kept : p.pointer ∉ omission.dropped) (instruction : Instruction) :
    (omission.position p).after? instruction = (p.after? instruction).map omission.position := by
  have onward := congrArg some (omission.position_next_of_kept kept).symm
  cases instruction with
  | finish => rfl
  | loop spec =>
    exact congrArg some (Position.ext (omission.place_succ_of_kept kept).symm (omission.entered_position p _))
  | loopEnd => exact congrArg some (omission.endLoop_position kept)
  | _ => exact onward

end Positions

/-- Of the instructions only notes are dropped. -/
theorem eq_note_of_dropped {i : Nat} (drops : i ∈ omission.dropped) {instruction : Instruction}
    (step : script.steps[i]? = some (.run instruction)) : instruction = .note := by
  have inert := omission.inert i drops
  rw [step, Option.all_some] at inert
  cases instruction with
  | note => rfl
  | _ => cases inert

section Visits

variable {visit : Visit} (made : Array Visit)

/-- The visits to steps that are kept, at their places. -/
def visits : Array Visit := (made.filter (·.index ∉ omission.dropped)).map (Visit.moved omission.place)

theorem visits_push_of_kept (kept : visit.index ∉ omission.dropped) :
    omission.visits (made.push visit) = (omission.visits made).push (visit.moved omission.place) := by
  simp [visits, kept]

theorem visits_push_of_dropped (drops : visit.index ∈ omission.dropped) :
    omission.visits (made.push visit) = omission.visits made := by
  simp [visits, drops]

end Visits

/-- What comes of a run with all positions moved, and without the visits to steps that are dropped. -/
def moved (result : RunResult) : RunResult where
  outcome := (result.outcome.map (RunOutcome.moved omission.place)).mapError (RunError.moved omission.place)
  stage := result.stage.moved omission.place
  frame := result.frame.map (LoopFrame.moved omission.place)
  visits := omission.visits result.visits

section Runs

variable {setting : Setting} {p : Position} {stage stage' : Stage} {made : Array Visit} {result : RunResult}

/-- An instruction that is kept is carried out at its place as it is in the whole script. -/
theorem perform_position {instruction : Instruction} {outcome : Except EngineError Unit}
    (run : (Stage.perform setting (p.spot instruction) instruction).run stage = (outcome, stage')) :
    (Stage.perform setting ((omission.position p).spot instruction) instruction).run (stage.moved omission.place) =
      (outcome, stage'.moved omission.place) := by
  have composed := Stage.composed_perform_alike setting ((p.spot instruction).counter_moved omission.place)
    ((p.spot instruction).number_moved omission.place) instruction
  rw [spot_position, composed.moved rfl stage, run]

/-- Step for step the shorter script does what the whole one does. -/
theorem runs_shorter (runs : script.Runs setting p stage made result) :
    omission.shorter.Runs setting (omission.position p) (stage.moved omission.place) (omission.visits made)
      (omission.moved result) := by
  have visited {p : Position} (kept : p.pointer ∉ omission.dropped) (instruction : Instruction) (made : Array Visit) :
      omission.visits (made.push (p.visit instruction)) =
        (omission.visits made).push ((omission.position p).visit instruction) := by
    rw [visit_position]
    exact omission.visits_push_of_kept made kept
  induction runs with
  | behind behind => exact .behind (omission.length_shorter_le behind)
  | @skip p _ _ _ _ step _ ih =>
    by_cases drops : p.pointer ∈ omission.dropped
    · rw [omission.position_next_of_dropped drops] at ih
      exact ih
    · rw [omission.position_next_of_kept drops] at ih
      exact .skip ((omission.getElem?_shorter drops).trans step) ih
  | @fail p _ _ _ instruction _ step failed =>
    have kept : p.pointer ∉ omission.dropped := fun drops => by
      obtain rfl := omission.eq_note_of_dropped drops step
      cases failed
    have here := (omission.getElem?_shorter kept).trans step
    rw [moved, visited kept]
    exact .fail here (omission.perform_position failed)
  | @onward p q stage stage' made _ instruction step done after _ ih =>
    by_cases drops : p.pointer ∈ omission.dropped
    · -- A note that is dropped leaves the stage as it is, and is not visited in the shorter script.
      obtain rfl := omission.eq_note_of_dropped drops step
      cases done
      cases after
      have unseen : omission.visits (made.push (p.visit .note)) = omission.visits made :=
        omission.visits_push_of_dropped made drops
      rw [omission.position_next_of_dropped drops, unseen] at ih
      exact ih
    · have here := (omission.getElem?_shorter drops).trans step
      have leads : (omission.position p).after? instruction = some (omission.position q) := by
        rw [omission.after?_position drops, after, Option.map_some]
      rw [visited drops] at ih
      exact .onward here (omission.perform_position done) leads ih
  | @finish p _ _ _ instruction step done ends =>
    have kept : p.pointer ∉ omission.dropped := fun drops => by
      obtain rfl := omission.eq_note_of_dropped drops step
      cases ends
    have here := (omission.getElem?_shorter kept).trans step
    have leads : (omission.position p).after? instruction = none := by
      rw [omission.after?_position kept, ends, Option.map_none]
    rw [moved, visited kept]
    exact .finish here (omission.perform_position done) leads

end Runs

/-- A position that is named in what comes of a run is that of a step that is kept. -/
theorem kept_of_names {result : RunResult} (reports : script.Reports result) {i : Nat} (named : result.Names i) :
    i ∉ omission.dropped ∧ ∃ instruction, script.steps[i]? = some (.run instruction) := by
  have noted : ∃ instruction, script.steps[i]? = some (.run instruction) ∧ instruction ≠ .note := by
    cases named with
    | failed outcome =>
      obtain ⟨instruction, step, -, other⟩ := reports.failed _ outcome
      exact ⟨instruction, step, other⟩
    | ended outcome => exact ⟨.finish, reports.ended _ outcome, nofun⟩
    | recovered mem =>
      obtain ⟨instruction, step, -, recovery⟩ := reports.recovered _ mem
      refine ⟨instruction, step, ?_⟩
      rintro rfl
      cases recovery
    | looping active =>
      obtain ⟨spec, step⟩ := reports.looping _ active
      exact ⟨.loop spec, step, nofun⟩
  obtain ⟨instruction, step, other⟩ := noted
  exact ⟨fun drops => other (omission.eq_note_of_dropped drops step), instruction, step⟩

/-- **Notes and steps that are passed over can be left out.** On a host that can be opened
the shorter script does what the whole one does: it makes the same calls and draws, ends or
fails alike and leaves the same configuration, negative prompt, mask and number of renders.
Where the whole script names a step, of an end, a failure, a recovery or the active loop,
the shorter one names the place of the same step. A host that cannot be opened fails both. -/
theorem run_shorter (script : Script) (omission : script.Omission) (setting : Setting) (draws : Draws) (host : Host) :
    (∀ e, Stage.open? host draws = .error e →
      (omission.shorter.runOn setting draws).run host = (script.runOn setting draws).run host) ∧
      ∀ stage, Stage.open? host draws = .ok stage →
        let whole := script.run setting stage
        omission.shorter.run setting stage = omission.moved whole ∧
          ∀ i, whole.Names i → i ∉ omission.dropped ∧ ∃ instruction, script.steps[i]? = some (.run instruction) ∧
            omission.shorter.steps[omission.place i]? = some (.run instruction) := by
  refine ⟨fun e closed => ?closed, fun stage opened => ⟨?same, fun i named => ?named⟩⟩
  case closed => rw [runOn_of_error closed, runOn_of_error closed]
  case same =>
    obtain rfl := Stage.eq_of_open? opened
    have start : omission.position .start = .start := Position.ext rfl rfl
    have fresh : (host.stage draws).moved omission.place = host.stage draws := by
      simp [Stage.moved, Host.stage, Stage.ofHost]
    have unvisited : omission.visits #[] = #[] := by simp [visits]
    have runs := omission.runs_shorter (script.runs_runFrom setting .start (host.stage draws) #[])
    rw [start, fresh, unvisited] at runs
    exact runs.runFrom_eq
  case named =>
    obtain rfl := Stage.eq_of_open? opened
    obtain ⟨kept, instruction, step⟩ := omission.kept_of_names (reports_run script setting host draws _ _) named
    exact ⟨kept, instruction, step, (omission.getElem?_shorter kept).trans step⟩

/-- A script with notes around and in a loop, which ends after it. -/
def annotated : Script where
  steps :=
    [.run .note, .run (.loop { count := some (.ofNat 2), start := none }), .skip "comment", .run .crop, .run .loopEnd,
      .run .note, .run .finish]

/-- All of its notes but the last left out. -/
def plainer : annotated.Omission where
  dropped := {0, 2}
  inert := by decide

/-- The shorter script ends at the place of the same step. -/
theorem run_shorter_plainer :
    let setting : Setting := { resolver := Settings.default.resolver .empty 64, settings := .default }
    let draws := Draws.ofSource fun _ => 0
    let stage := (Host.ofPictures "/pics").stage draws
    Stage.open? (Host.ofPictures "/pics") draws = .ok stage ∧
      (annotated.run setting stage).outcome = .ok (.ended 6) ∧
      plainer.shorter.run setting stage = plainer.moved (annotated.run setting stage) ∧
      (plainer.shorter.run setting stage).outcome = .ok (.ended 4) ∧
      plainer.shorter.steps[4]? = some (.run .finish) := by
  intro setting draws stage
  have opened : Stage.open? (Host.ofPictures "/pics") draws = .ok stage := rfl
  have ended : (annotated.run setting stage).outcome.toOption = some (.ended 6) := by
    rw [show (annotated.run setting stage).outcome = _ from
      congrArg Course.outcome (course_run_eq_segments annotated setting stage)]
    decide +kernel
  have ended : (annotated.run setting stage).outcome = .ok (.ended 6) := by
    cases outcome : (annotated.run setting stage).outcome with
    | error e => simp [outcome, Except.toOption] at ended
    | ok ending => simpa [outcome, Except.toOption] using ended
  obtain ⟨same, named⟩ := (run_shorter annotated plainer setting draws (Host.ofPictures "/pics")).2 stage opened
  have place : plainer.place 6 = 4 := by decide +kernel
  obtain ⟨-, instruction, step, there⟩ := named 6 (.ended ended)
  cases step
  have moved : (plainer.shorter.run setting stage).outcome = .ok (.ended (plainer.place 6)) := by
    rw [same, Omission.moved, ended]
    rfl
  rw [place] at there moved
  exact ⟨opened, ended, same, moved, there⟩

end Script.Omission

end CanvasScript
