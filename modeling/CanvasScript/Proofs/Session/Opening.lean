import CanvasScript.Proofs.Run.Blocks
import CanvasScript.Proofs.Run.OnHost
import CanvasScript.Proofs.Session.Soundness

/-!
# Running valid texts

A valid text is run as its script is (`Session.run_eq_runOn`): on a host that can be opened the
outcome is told from the result of that run (`Session.run_of_opened`), and a host that cannot be
opened is left as it is. The preflight that is reported is that of the text but for the answers of
the host (`Session.preflight_of_report`).
-/

namespace CanvasScript

open Json (Value)

/-- A host that is opened is left as it is, and the stage is set up with it. -/
theorem Stage.host_of_open? {host : Host} {draws : Draws} {stage : Stage} (opened : open? host draws = .ok stage) :
    stage.host = host ∧ stage.renders = 0 := by
  obtain rfl := Stage.eq_of_open? opened
  exact ⟨rfl, rfl⟩

namespace Session

variable {session : Session} {text : String} {entries : List Value} {script : Script} {host : Host}

/-- A valid text is run as its script is, and reported with what the host tells of its models. -/
theorem run_eq_runOn (valid : (Preflight.ofText text).valid = true) (read : readEntries text = .ok entries)
    (decoded : Script.decode entries = .ok script) (host : Host) :
    (session.run text).run host =
      (((script.runOn session.setting session.draws).run host).1.map fun summary =>
          { digest := scriptDigest entries, preflight := (Preflight.ofText text).toldBy host, summary },
        ((script.runOn session.setting session.draws).run host).2) := by
  rw [session.run_on_host_of_valid valid read decoded, reporting, perform_eq, Attempt.run_bind]
  rcases (script.runOn session.setting session.draws).run host with ⟨_ | summary, after⟩ <;> rfl

/-- A valid text runs its script on the host, if that can be opened. -/
theorem run_of_opened (valid : (Preflight.ofText text).valid = true) (read : readEntries text = .ok entries)
    (decoded : Script.decode entries = .ok script) {stage : Stage}
    (opened : Stage.open? host session.draws = .ok stage) :
    ∃ told, (session.run text).run host =
      (((script.run session.setting stage).summary.mapError SessionError.run).map fun summary =>
          { digest := scriptDigest entries, preflight := told, summary },
        (script.run session.setting stage).stage.host) := by
  refine ⟨(Preflight.ofText text).toldBy host, ?_⟩
  rw [run_eq_runOn valid read decoded, Script.runOn_of_ok opened]

/-- A text whose script does not fail is reported. -/
theorem exists_report_of_opened (valid : (Preflight.ofText text).valid = true) (read : readEntries text = .ok entries)
    (decoded : Script.decode entries = .ok script) {stage : Stage}
    (opened : Stage.open? host session.draws = .ok stage)
    (ok : (script.run session.setting stage).outcome.isOk = true) :
    ∃ report, ((session.run text).run host).1 = .ok report := by
  obtain ⟨told, run⟩ := run_of_opened valid read decoded opened
  obtain ⟨summary, summed⟩ := RunResult.exists_summary ok
  rw [run, summed]
  exact ⟨_, rfl⟩

/-- A valid text is reported when its segments are followed to the end. -/
theorem exists_report_of_followed (valid : (Preflight.ofText text).valid = true) {stage : Stage}
    (opened : Stage.open? host session.draws = .ok stage)
    (completes : ((readEntries text).toOption.bind fun entries => (Script.decode entries).toOption).map
        (fun script => (script.follow session.setting ((segmentsFrom 0 none script.steps).flatMap Segment.walk)
          stage).outcome.isOk) = some true) :
    ∃ report, ((session.run text).run host).1 = .ok report := by
  obtain ⟨entries, read, valid_entries⟩ := Preflight.entries_of_valid valid
  obtain ⟨instructions, decoded, -⟩ := Script.decode_of_valid valid_entries
  have ok : (Script.run { steps := instructions.map .run } session.setting stage).outcome.isOk = true := by
    have course := Script.course_run_eq_segments { steps := instructions.map .run } session.setting stage
    rw [read] at completes
    simp only [Except.toOption, Option.bind_some, decoded, Option.map_some, Option.some.injEq] at completes
    rw [← completes, ← course]
    rfl
  exact exists_report_of_opened valid read decoded opened ok

/-- A valid text fails and leaves the host as it is, if that cannot be opened. -/
theorem run_of_not_opened (valid : (Preflight.ofText text).valid = true) (read : readEntries text = .ok entries)
    (decoded : Script.decode entries = .ok script) {e : HostError}
    (failed : Stage.open? host session.draws = .error e) :
    (session.run text).run host = (.error (.host e), host) := by
  rw [run_eq_runOn valid read decoded, Script.runOn_of_error failed]
  rfl

/-- The preflight that is reported with a run is that of the text with what the host tells. -/
theorem preflight_of_report {report : Report} (done : ((session.run text).run host).1 = .ok report) :
    report.preflight = (Preflight.ofText text).toldBy host := by
  cases valid : (Preflight.ofText text).valid with
  | false =>
    rw [run_of_invalid session valid host] at done
    cases done
  | true =>
    obtain ⟨entries, read, valid_entries⟩ := Preflight.entries_of_valid valid
    obtain ⟨instructions, decoded, -⟩ := Script.decode_of_valid valid_entries
    rw [run_eq_runOn valid read decoded host] at done
    cases summed : ((Script.runOn { steps := instructions.map .run } session.setting session.draws).run host).1 <;>
      rw [summed] at done <;> cases done
    rfl

/-- Without the answers it is that of the text. -/
theorem withoutAnswers_of_report {report : Report} (done : ((session.run text).run host).1 = .ok report) :
    report.preflight.withoutAnswers = Preflight.ofText text := by
  rw [preflight_of_report done, Preflight.withoutAnswers_toldBy, Preflight.withoutAnswers_ofText]

section Outcomes

variable {stage : Stage}

/-- The summary that is told of a valid text is that of its script. -/
theorem summary_of_succeeded (valid : (Preflight.ofText text).valid = true) (read : readEntries text = .ok entries)
    (decoded : Script.decode entries = .ok script) (opened : Stage.open? host session.draws = .ok stage)
    {report : Report} (succeeded : ((session.run text).run host).1 = .ok report) :
    (script.run session.setting stage).summary = .ok report.summary := by
  obtain ⟨told, run⟩ := run_of_opened valid read decoded opened
  rw [run] at succeeded
  cases summed : (script.run session.setting stage).summary with
  | error e =>
    rw [summed] at succeeded
    cases succeeded
  | ok summary =>
    rw [summed] at succeeded
    cases succeeded
    rfl

/-- An instruction of a valid text fails as it does in its script. -/
theorem outcome_of_failed (valid : (Preflight.ofText text).valid = true) (read : readEntries text = .ok entries)
    (decoded : Script.decode entries = .ok script) (opened : Stage.open? host session.draws = .ok stage)
    {e : RunError} (failed : ((session.run text).run host).1 = .error (.run e)) :
    (script.run session.setting stage).outcome = .error e := by
  obtain ⟨told, run⟩ := run_of_opened valid read decoded opened
  rw [run, RunResult.summary] at failed
  cases outcome : (script.run session.setting stage).outcome with
  | error other =>
    rw [outcome] at failed
    cases failed
    rfl
  | ok ending =>
    rw [outcome] at failed
    cases failed

end Outcomes

end Session

end CanvasScript
