import CanvasScript.Proofs.Run.Availability
import CanvasScript.Proofs.Session.Opening

/-!
# Sessions do not regard which models are there

A text is run on a host as its script is, and what is reported with it is what the host tells of
its models (`Session.run_eq_runOn`). So of two hosts that differ in their models alone nothing else
is told by running a text on them (`Session.run_alike`).
-/

namespace CanvasScript

open Json (Value)

/-- Two outcomes of running a text are the same but for the answers about models. -/
inductive Report.Alike : Except SessionError Report → Except SessionError Report → Prop where
  | error (e : SessionError) : Alike (.error e) (.error e)
  | ok {report other : Report} (digest : report.digest = other.digest)
      (preflight : report.preflight.withoutAnswers = other.preflight.withoutAnswers)
      (summary : report.summary.withoutModels = other.summary.withoutModels)
      (written : report.summary.toJson = other.summary.toJson) : Alike (.ok report) (.ok other)

/-- A summary does not tell of the host. -/
theorem RunSummary.toJson_withoutModels (summary : RunSummary) : summary.withoutModels.toJson = summary.toJson := rfl

theorem Host.calls_of_alike {host other : Host} (alike : host.withoutModels = other.withoutModels) :
    host.calls = other.calls := by
  have same : host.withoutModels.calls = other.withoutModels.calls := congrArg Host.calls alike
  exact same

namespace Session

variable {session : Session} {text : String} {entries : List Value} {script : Script} {host other : Host}

theorem alike_of_map_eq {outcome outcome' : Except SessionError RunSummary} {digest : String}
    {preflight preflight' : Preflight} (same : outcome.map RunSummary.withoutModels = outcome'.map RunSummary.withoutModels)
    (answers : preflight.withoutAnswers = preflight'.withoutAnswers) :
    Report.Alike (outcome.map fun summary => { digest, preflight, summary })
      (outcome'.map fun summary => { digest, preflight := preflight', summary }) := by
  cases outcome with
  | error e =>
    cases outcome' with
    | error e' =>
      obtain rfl := Except.error.inj same
      exact .error e
    | ok summary => cases same
  | ok summary =>
    cases outcome' with
    | error e => cases same
    | ok summary' =>
      have erased : summary.withoutModels = summary'.withoutModels := Except.ok.inj same
      have written : summary.toJson = summary'.toJson := by
        rw [← summary.toJson_withoutModels, erased, summary'.toJson_withoutModels]
      exact .ok rfl answers erased written

/-- On hosts that differ in their models alone a text comes out alike, and leaves them so. -/
theorem outcomes_alike (session : Session) (text : String) (alike : host.withoutModels = other.withoutModels) :
    Report.Alike ((session.run text).run host).1 ((session.run text).run other).1 ∧
      ((session.run text).run host).2.withoutModels = ((session.run text).run other).2.withoutModels := by
  cases valid : (Preflight.ofText text).valid with
  | false =>
    rw [run_of_invalid session valid host, run_of_invalid session valid other]
    exact ⟨.error _, alike⟩
  | true =>
    obtain ⟨entries, read, valid_entries⟩ := Preflight.entries_of_valid valid
    obtain ⟨instructions, decoded, -⟩ := Script.decode_of_valid valid_entries
    obtain ⟨outcome, left⟩ := Script.runOn_alike { steps := instructions.map .run } session.setting session.draws alike
    rw [run_eq_runOn valid read decoded host, run_eq_runOn valid read decoded other]
    refine ⟨alike_of_map_eq outcome ?_, left⟩
    rw [Preflight.withoutAnswers_toldBy, Preflight.withoutAnswers_toldBy]

/-- **The availability of models is not regarded.** On two hosts that differ in nothing but in the models
that are there, or in that one fails to tell of them, a text comes out alike and leaves them alike. A preflight
has the answers of its host for all its models, or is as it was where the host does not tell. -/
theorem run_alike (session : Session) (text : String) {host other : Host}
    (alike : host.withoutModels = other.withoutModels) :
    let ends := (session.run text).run host
    let ends' := (session.run text).run other
    Report.Alike ends.1 ends'.1 ∧ ends.2.calls = ends'.2.calls ∧ ends.2.withoutModels = ends'.2.withoutModels ∧
      (∀ report, ends.1 = .ok report → report.preflight = (Preflight.ofText text).toldBy host) ∧
      ∀ asked : Preflight, asked.checkModelsIfTold.run host = (.ok (asked.toldBy host), host) ∧
        (host.failing = some "models_downloaded" → asked.toldBy host = asked) ∧
        (host.failing ≠ some "models_downloaded" →
          asked.toldBy host =
              { asked with
                models := asked.models.map fun status =>
                  { status with downloaded := some (host.downloaded.contains status.name) } } ∧
            (asked.toldBy host).missingModels =
              (asked.models.map ModelStatus.name).filter fun name => !host.downloaded.contains name) := by
  obtain ⟨outcome, left⟩ := session.outcomes_alike text alike
  refine ⟨outcome, Host.calls_of_alike left, left, fun report => preflight_of_report, fun asked => ?_⟩
  refine ⟨asked.run_checkModelsIfTold_eq host, Preflight.toldBy_of_failing, fun works => ?_⟩
  rw [Preflight.toldBy_of_working works]
  exact ⟨asked.answeredBy_eq host, asked.missingModels_answeredBy host⟩

/-- Two configurations that ask for three models, two of one name. -/
def askedTwice : String :=
  "[\x7b\"config\":\x7b\"model\":\"a\",\"upscaler\":\"b\"\x7d\x7d,\x7b\"config\":\x7b\"model\":\"b\"\x7d\x7d]"

/-- One host has the first model, and the other one does not tell. -/
theorem run_alike_askedTwice :
    let knowing : Host := { Host.ofPictures "/pics" with downloaded := ["a"] }
    let silent : Host := { Host.ofPictures "/pics" with failing := some "models_downloaded" }
    knowing.withoutModels = silent.withoutModels ∧
      ∃ report other, ((sample.run askedTwice).run knowing).1 = .ok report ∧
        ((sample.run askedTwice).run silent).1 = .ok other ∧
        report.digest = other.digest ∧ report.summary.toJson = other.summary.toJson ∧
        report.preflight.missingModels = ["b", "b"] ∧ other.preflight.missingModels = [] := by
  intro knowing silent
  have alike : knowing.withoutModels = silent.withoutModels := rfl
  have valid : (Preflight.ofText askedTwice).valid = true := by decide +kernel
  have opened : Stage.open? knowing sample.draws = .ok (knowing.stage sample.draws) := rfl
  obtain ⟨report, reported⟩ := exists_report_of_followed valid opened (by decide +kernel)
  obtain ⟨same, -, -, told, check⟩ := run_alike sample askedTwice alike
  obtain ⟨-, -, -, silence, unchecked⟩ := run_alike sample askedTwice alike.symm
  have missing : report.preflight.missingModels = ["b", "b"] := by
    rw [told report reported, ((check _).2.2 (by decide)).2]
    decide +kernel
  rw [reported] at same
  cases ends : ((sample.run askedTwice).run silent).1 with
  | error e =>
    rw [ends] at same
    cases same
  | ok other =>
    rw [ends] at same
    cases same with
    | ok digest _ _ written =>
      refine ⟨alike, report, other, reported, rfl, digest, written, missing, ?_⟩
      rw [silence other ends, (unchecked _).2.1 rfl]
      decide +kernel

end Session

end CanvasScript
