import CanvasScript.Proofs.Run.Route
import CanvasScript.Proofs.Run.Touches

/-!
# Traces of a run

A trace tells, visit by visit, what the host was asked for (`Script.trace`). Put one
after the other the calls of a trace are what a run adds to the log, and the files that
it touches are those that its visits tell, in order (`Script.accounts_of_run`). Only
the visit at which a run fails may stop before it touches its file.
-/

namespace CanvasScript

/-- The calls that the log of a host has beyond that of an earlier one. -/
def Host.callsSince (earlier later : Host) : List Call := later.calls.toList.drop earlier.calls.size

/-- A visit and what the host was asked for meanwhile. -/
structure Episode where
  visit : Visit
  calls : List Call

/-- The calls of an episode that touch files. -/
def Episode.touched (episode : Episode) : List Call := episode.calls.filter Call.touchesFile

namespace Script

/-- The episodes of visits made one after the other, up to the first `end` or failure. -/
def trace (script : Script) (setting : Setting) : List Visit → Stage → List Episode
  | [], _ => []
  | visit :: later, stage =>
    match script.steps[visit.index]? with
    | some (.run instruction) =>
      match (Stage.perform setting { index := visit.index, frame := visit.frame } instruction).run stage with
      | (.error _, stage') => [{ visit, calls := stage.host.callsSince stage'.host }]
      | (.ok (), stage') =>
        { visit, calls := stage.host.callsSince stage'.host } ::
          if instruction.kind = .finish then [] else script.trace setting later stage'
    | _ => script.trace setting later stage

/-- The file that is touched in a visit. -/
def touch? (script : Script) (host : Host) (visit : Visit) : Option Call :=
  match script.steps[visit.index]? with
  | some (.run instruction) => instruction.touch? { index := visit.index, frame := visit.frame } host
  | _ => none

/-- The file or directory that the step of a visit names. -/
def path? (script : Script) (visit : Visit) : Option String :=
  match script.steps[visit.index]? with
  | some (.run instruction) => instruction.path?
  | _ => none

/-- The step of a visit is a prompt. -/
def renders (script : Script) (visit : Visit) : Bool :=
  match script.steps[visit.index]? with
  | some (.run instruction) => decide (instruction.kind = .prompt)
  | _ => false

/-- What a trace tells of the course that it belongs to: the files that are touched in
the visits with a property are those that the visits tell, but for the last one if the
course fails. -/
structure Accounts (script : Script) (stage : Stage) (course : Course) (trace : List Episode) : Prop where
  visits : trace.map Episode.visit = course.visits
  calls : course.stage.host.calls.toList = stage.host.calls.toList ++ trace.flatMap Episode.calls
  setup : course.stage.host.setup = stage.host.setup
  touched : ∀ p : Visit → Bool, ∃ missed : List Call,
    (trace.filter fun episode => p episode.visit).flatMap Episode.touched ++ missed =
        (course.visits.filter p).filterMap (script.touch? stage.host) ∧
      missed.length ≤ 1 ∧ (course.outcome.isOk = true → missed = [])
  named : course.outcome.isOk = true →
    ∀ visit ∈ course.visits, (script.touch? stage.host visit).isSome = (script.path? visit).isSome
  renders : course.outcome.isOk = true →
    course.stage.renders = stage.renders + course.visits.countP script.renders

variable {script : Script} {setting : Setting} {stage stage' : Stage}

section Steps

variable {visit : Visit} {instruction : Instruction} (step : script.steps[visit.index]? = some (.run instruction))

include step

theorem touch?_of_step (host : Host) :
    script.touch? host visit = instruction.touch? { index := visit.index, frame := visit.frame } host := by
  simp [touch?, step]

theorem path?_of_step : script.path? visit = instruction.path? := by
  simp [path?, step]

theorem renders_of_step : script.renders visit = decide (instruction.kind = .prompt) := by
  simp [renders, step]

theorem trace_of_error {cause : EngineError}
    (failed : (Stage.perform setting { index := visit.index, frame := visit.frame } instruction).run stage =
      (.error cause, stage')) (later : List Visit) :
    script.trace setting (visit :: later) stage = [{ visit, calls := stage.host.callsSince stage'.host }] := by
  simp [trace, step, failed]

theorem trace_of_finish
    (done : (Stage.perform setting { index := visit.index, frame := visit.frame } instruction).run stage =
      (.ok (), stage')) (finish : instruction.kind = .finish) (later : List Visit) :
    script.trace setting (visit :: later) stage = [{ visit, calls := stage.host.callsSince stage'.host }] := by
  simp [trace, step, done, finish]

theorem trace_of_ok
    (done : (Stage.perform setting { index := visit.index, frame := visit.frame } instruction).run stage =
      (.ok (), stage')) (more : instruction.kind ≠ .finish) (later : List Visit) :
    script.trace setting (visit :: later) stage =
      { visit, calls := stage.host.callsSince stage'.host } :: script.trace setting later stage' := by
  simp [trace, step, done, more]

end Steps

/-- What a visit touches depends on what the host was set up with. -/
theorem touch?_of_setup {host host' : Host} (same : host'.setup = host.setup) (visit : Visit) :
    script.touch? host' visit = script.touch? host visit := by
  unfold touch?
  split
  · rw [← Instruction.touch?_setup, same, Instruction.touch?_setup]
  · rfl

/-- One visit accounts for what its instruction does. -/
theorem accounts_single {visit : Visit} {instruction : Instruction} {outcome : Except EngineError Unit}
    (step : script.steps[visit.index]? = some (.run instruction))
    (run : (Stage.perform setting { index := visit.index, frame := visit.frame } instruction).run stage =
      (outcome, stage'))
    {result : Except RunError RunOutcome} (same : result.isOk = outcome.isOk) :
    script.Accounts stage { outcome := result, stage := stage', visits := [visit] }
      [{ visit, calls := stage.host.callsSince stage'.host }] := by
  have effect := Stage.touches_perform setting { index := visit.index, frame := visit.frame } instruction stage
  dsimp only at effect
  rw [run, ← touch?_of_step step] at effect
  obtain ⟨⟨made, missed, log, touched, whole⟩, setup, renders⟩ := effect
  have since : stage.host.callsSince stage'.host = made := by
    rw [Host.callsSince, log, ← Array.length_toList, List.drop_left]
  have done (ok : result.isOk = true) : outcome = .ok () := by
    cases outcome with
    | ok _ => rfl
    | error e =>
      rw [same] at ok
      cases ok
  rw [since]
  refine ⟨rfl, by simpa using log, setup, fun p => ?_, fun ok => ?_, fun ok => ?_⟩
  · cases chosen : p visit with
    | false => exact ⟨[], by simp [chosen], Nat.zero_le _, fun _ => rfl⟩
    | true =>
      have alone : [visit].filterMap (script.touch? stage.host) = (script.touch? stage.host visit).toList := by
        cases here : script.touch? stage.host visit <;> simp [here]
      have short : missed.length ≤ 1 := by
        have total := congrArg List.length touched
        have bound : (script.touch? stage.host visit).toList.length ≤ 1 := Option.length_toList_le
        rw [List.length_append] at total
        omega
      refine ⟨missed, ?_, short, fun ok => whole (same ▸ ok)⟩
      simpa only [List.filter_cons, chosen, if_true, List.filter_nil, List.flatMap_cons, List.flatMap_nil,
        List.append_nil, Episode.touched, alone] using touched
  · rw [done ok] at run
    rw [List.forall_mem_singleton, touch?_of_step step, path?_of_step step]
    exact Stage.touch?_isSome_of_ok run
  · rw [renders (done ok), List.countP_singleton, renders_of_step step]
    simp

theorem accounts_nil (stage : Stage) :
    script.Accounts stage { outcome := .ok .completed, stage, visits := [] } [] where
  visits := rfl
  calls := by simp
  setup := rfl
  touched p := ⟨[], rfl, Nat.zero_le _, fun _ => rfl⟩
  named _ := nofun
  renders _ := rfl

/-- Behind visits that did not fail others are accounted for from the stage they left. -/
theorem Accounts.behind {made : List Visit} {before : List Episode} {result : Except RunError RunOutcome}
    {course : Course} {trace : List Episode}
    (first : script.Accounts stage { outcome := result, stage := stage', visits := made } before)
    (ok : result.isOk = true) (second : script.Accounts stage' course trace) :
    script.Accounts stage (course.behind made) (before ++ trace) := by
  have same := script.touch?_of_setup first.setup
  refine ⟨?_, ?_, second.setup.trans first.setup, fun p => ?_, fun done => ?_, fun done => ?_⟩
  · rw [List.map_append, first.visits, second.visits]
    rfl
  · rw [List.flatMap_append, ← List.append_assoc, ← first.calls]
    exact second.calls
  · obtain ⟨none_missed, here, -, nothing⟩ := first.touched p
    obtain ⟨missed, there, short, whole⟩ := second.touched p
    rw [nothing ok, List.append_nil] at here
    rw [funext same] at there
    refine ⟨missed, ?_, short, whole⟩
    rw [Course.behind, List.filter_append, List.flatMap_append, List.filter_append, List.filterMap_append, here,
      List.append_assoc, there]
  · refine List.forall_mem_append.2 ⟨first.named ok, fun visit mem => ?_⟩
    rw [← same]
    exact second.named done visit mem
  · rw [Course.behind, List.countP_append, ← Nat.add_assoc, ← first.renders ok]
    exact second.renders done

/-- Visits made one after the other are accounted for by their trace. -/
theorem accounts_follow (setting : Setting) (visits : List Visit) (stage : Stage)
    (visitable : ∀ visit ∈ visits, script.IsVisitable visit) :
    script.Accounts stage (script.follow setting visits stage) (script.trace setting visits stage) := by
  induction visits generalizing stage with
  | nil => exact accounts_nil stage
  | cons visit later ih =>
    obtain ⟨⟨instruction, step⟩, behind⟩ := List.forall_mem_cons.1 visitable
    rcases run : (Stage.perform setting { index := visit.index, frame := visit.frame } instruction).run stage
      with ⟨cause | _, stage'⟩
    · rw [follow_of_error visit step run, trace_of_error step run]
      exact accounts_single step run rfl
    · by_cases finish : instruction.kind = .finish
      · rw [follow_of_finish visit step run finish, trace_of_finish step run finish]
        exact accounts_single step run rfl
      · have here : script.Accounts stage { outcome := .ok .completed, stage := stage', visits := [visit] }
            [{ visit, calls := stage.host.callsSince stage'.host }] := accounts_single step run rfl
        rw [follow_of_ok visit step run finish, trace_of_ok step run finish]
        exact here.behind rfl (ih stage' behind)

/-- The calls of a trace that touch files are those that the visits tell, in order, but for
the last one if the course fails. -/
theorem Accounts.touched_calls {course : Course} {trace : List Episode} (told : script.Accounts stage course trace) :
    ∃ missed : List Call,
      (trace.flatMap Episode.calls).filter Call.touchesFile ++ missed =
          course.visits.filterMap (script.touch? stage.host) ∧
        missed.length ≤ 1 ∧ (course.outcome.isOk = true → missed = []) := by
  have all := told.touched fun _ => true
  rw [List.filter_eq_self.2 fun _ _ => rfl, List.filter_eq_self.2 fun _ _ => rfl] at all
  rw [List.filter_flatMap]
  exact all

/-- The trace of a run. -/
def runTrace (script : Script) (setting : Setting) (stage : Stage) : List Episode :=
  script.trace setting (script.route .start) stage

/-- Without an `end` a run that does not fail makes all visits of its route. -/
theorem visits_of_run {script : Script} {setting : Setting} {stage : Stage}
    (endless : .run .finish ∉ script.steps) (ok : (script.run setting stage).outcome.isOk = true) :
    (script.run setting stage).course.visits = script.route .start := by
  have course := course_run script setting stage
  have completed : (script.follow setting (script.route .start) stage).outcome = .ok .completed := by
    rw [← course]
    cases outcome : (script.run setting stage).outcome with
    | error e =>
      rw [outcome] at ok
      cases ok
    | ok ending =>
      cases ending with
      | completed => exact outcome
      | ended i =>
        have ended : (script.follow setting (script.route .start) stage).outcome = .ok (.ended i) := by
          rw [← course]
          exact outcome
        obtain ⟨instruction, step, finish⟩ := finish_of_ended _ stage ended
        obtain rfl : instruction = .finish := by cases instruction <;> first | rfl | cases finish
        exact absurd (List.mem_of_getElem? step) endless
  rw [course]
  exact (follow_visits _ stage (isVisitable_of_mem_route .start)).2 completed

/-- A run is accounted for by its trace. -/
theorem accounts_of_run (script : Script) (setting : Setting) (stage : Stage) :
    script.Accounts stage (script.run setting stage).course (script.runTrace setting stage) := by
  rw [course_run]
  exact accounts_follow setting _ stage (isVisitable_of_mem_route .start)

end Script

end CanvasScript
