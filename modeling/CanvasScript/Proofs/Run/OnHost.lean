import CanvasScript.Proofs.Outcome
import CanvasScript.Proofs.Run.Blocks
import CanvasScript.Proofs.Run.Stepwise
import CanvasScript.Session
import Mathlib.Tactic.SplitIfs

/-!
# Runs on a host

A run starts with the configuration and the negative prompt of its host, if the host tells
them (`Stage.open?_eq`). What comes of a script on a host is `Script.runOn`; whatever it is,
the log of the host is only added to (`Script.adds_runOn`).
-/

namespace CanvasScript

/-- The stage of a run that starts on a host. -/
def Host.stage (host : Host) (draws : Draws) : Stage :=
  .ofHost host draws host.configuration host.negativePrompt

/-- A host is opened unless it refuses to tell its configuration or its negative prompt. -/
theorem Stage.open?_eq (host : Host) (draws : Draws) :
    open? host draws =
      if host.failing = some "configuration" then .error (Host.injected "configuration")
      else if host.failing = some "negative_prompt" then .error (Host.injected "negative_prompt")
      else .ok (host.stage draws) := by
  unfold open? Host.getConfiguration Host.getNegativePrompt
  by_cases first : host.failing = some "configuration"
  · simp only [Attempt.run_bind, Host.run_query_of_failing first, first, if_true]
  · by_cases second : host.failing = some "negative_prompt"
    · simp only [Attempt.run_bind, Host.run_query_of_working first, Host.run_query_of_failing second, second, if_true]
      rfl
    · simp only [Attempt.run_bind, Host.run_query_of_working first, Host.run_query_of_working second, first, second,
        if_false]
      rfl

/-- What is opened on a host is its stage. -/
theorem Stage.eq_of_open? {host : Host} {draws : Draws} {stage : Stage} (opened : open? host draws = .ok stage) :
    stage = host.stage draws := by
  rw [open?_eq] at opened
  split_ifs at opened
  exact (Except.ok.inj opened).symm

/-- A run is summed up if it did not fail. -/
theorem RunResult.summary_eq_ok_iff {result : RunResult} {summary : RunSummary} :
    result.summary = .ok summary ↔ ∃ outcome, result.outcome = .ok outcome ∧
      summary = { outcome, executed := result.visits.size, stage := result.stage, frame := result.frame } := by
  unfold RunResult.summary
  cases result.outcome <;> simp [bind, Except.bind, pure, Except.pure, eq_comm]

/-- A run that is summed up did not fail, and its summary has its stage. -/
theorem RunResult.stage_of_summary {result : RunResult} {summary : RunSummary} (h : result.summary = .ok summary) :
    result.outcome.isOk = true ∧ summary.stage = result.stage := by
  obtain ⟨ending, outcome, rfl⟩ := RunResult.summary_eq_ok_iff.1 h
  exact ⟨outcome ▸ rfl, rfl⟩

/-- A run that did not fail is summed up. -/
theorem RunResult.exists_summary {result : RunResult} (ok : result.outcome.isOk = true) :
    ∃ summary, result.summary = .ok summary := by
  cases outcome : result.outcome with
  | error e =>
    rw [outcome] at ok
    cases ok
  | ok ending => exact ⟨_, RunResult.summary_eq_ok_iff.2 ⟨ending, outcome, rfl⟩⟩

namespace Script

/-- A script run on a host. -/
def runOn (script : Script) (setting : Setting) (draws : Draws) : Attempt Host SessionError RunSummary := fun host =>
  match Stage.open? host draws with
  | .error e => (.error (.host e), host)
  | .ok stage =>
    ((script.run setting stage).summary.mapError .run, (script.run setting stage).stage.host)

variable {script : Script} {setting : Setting} {draws : Draws} {host : Host}

theorem runOn_of_error {e : HostError} (failed : Stage.open? host draws = .error e) :
    (script.runOn setting draws).run host = (.error (.host e), host) := by
  simp only [runOn, Attempt.run, failed]

theorem runOn_of_ok {stage : Stage} (opened : Stage.open? host draws = .ok stage) :
    (script.runOn setting draws).run host =
      ((script.run setting stage).summary.mapError .run, (script.run setting stage).stage.host) := by
  simp only [runOn, Attempt.run, opened]

/-- What a run leaves of a host that can be opened is what its segments leave. -/
theorem runOn_eq_segments {stage : Stage} (opened : Stage.open? host draws = .ok stage) :
    ((script.runOn setting draws).run host).2 =
      (script.follow setting ((segmentsFrom 0 none script.steps).flatMap Segment.walk) stage).stage.host := by
  rw [runOn_of_ok opened]
  exact congrArg (fun course => course.stage.host) (course_run_eq_segments script setting stage)

/-- The summary that is told of a run on a host is that of the run. -/
theorem summary_of_runOn {stage : Stage} {summary : RunSummary} (opened : Stage.open? host draws = .ok stage)
    (summed : ((script.runOn setting draws).run host).1 = .ok summary) :
    (script.run setting stage).summary = .ok summary := by
  rw [runOn_of_ok opened] at summed
  exact Outcome.mapError_eq_ok_iff.1 summed

/-- What a run adds to the log of its host, it adds to the log of the host that it is opened on. -/
theorem adds_runOn (script : Script) (setting : Setting) (draws : Draws) :
    (script.runOn setting draws).Within (Host.Adds fun _ => True) := by
  intro host
  cases opened : Stage.open? host draws with
  | error e =>
    rw [runOn_of_error opened]
    exact refl_of _ host
  | ok stage =>
    obtain rfl := Stage.eq_of_open? opened
    rw [runOn_of_ok opened]
    exact (script.runs_runFrom setting .start (host.stage draws) #[]).adds

end Script

/-- A session runs scripts with its setting and its draws. -/
theorem Session.perform_eq (session : Session) (script : Script) :
    session.perform script = script.runOn session.setting session.draws := rfl

end CanvasScript
