import CanvasScript.Preflight.Availability
import CanvasScript.Proofs.Host.Operation

/-!
# Answers about models

A host that is asked which models are there adds its answers to a preflight, one for each model
(`Preflight.answeredBy_eq`), or leaves it as it is when it fails: what it leaves is
`Preflight.toldBy` (`Preflight.run_checkModelsIfTold_eq`). Nothing else in a preflight changes
(`Preflight.withoutAnswers_toldBy`).
-/

namespace CanvasScript

/-- A model without the answer about it. -/
def ModelStatus.withoutAnswer (status : ModelStatus) : ModelStatus := { status with downloaded := none }

namespace Preflight

variable {report : Preflight}

/-- The report without any answer. -/
def withoutAnswers (report : Preflight) : Preflight :=
  { report with models := report.models.map ModelStatus.withoutAnswer }

/-- The models as the host knows them. -/
def answeredBy (report : Preflight) (host : Host) : Preflight :=
  report.withAnswers ((report.models.map ModelStatus.name).map host.downloaded.contains)

/-- Answers change nothing but the answers. -/
theorem withoutAnswers_withAnswers (present : List Bool) :
    (report.withAnswers present).withoutAnswers = report.withoutAnswers := by
  have models (models : List ModelStatus) (present : List Bool) :
      (withAnswers.go models present).map ModelStatus.withoutAnswer = models.map ModelStatus.withoutAnswer := by
    induction models generalizing present with
    | nil => cases present <;> rfl
    | cons status models ih =>
      cases present with
      | nil => rfl
      | cons downloaded present => exact congrArg (status.withoutAnswer :: ·) (ih present)
  rw [withoutAnswers, withAnswers, models]
  rfl

/-- A host answers for every model whether it is there. -/
theorem answeredBy_eq (report : Preflight) (host : Host) :
    report.answeredBy host =
      { report with
        models := report.models.map fun status =>
          { status with downloaded := some (host.downloaded.contains status.name) } } := by
  have models (models : List ModelStatus) :
      withAnswers.go models ((models.map ModelStatus.name).map host.downloaded.contains) =
        models.map fun status => { status with downloaded := some (host.downloaded.contains status.name) } := by
    induction models with
    | nil => rfl
    | cons status models ih => exact congrArg (_ :: ·) ih
  rw [answeredBy, withAnswers, models]

/-- The models that are missing, as often as they are named. -/
theorem missingModels_answeredBy (report : Preflight) (host : Host) :
    (report.answeredBy host).missingModels =
      (report.models.map ModelStatus.name).filter fun name => !host.downloaded.contains name := by
  rw [answeredBy_eq, missingModels, List.filter_map, List.map_map, List.filter_map]
  refine congrArg (List.map ModelStatus.name) (List.filter_congr fun status _ => ?_)
  show (some (host.downloaded.contains status.name) == some false) = !host.downloaded.contains status.name
  cases host.downloaded.contains status.name <;> rfl

/-- The preflight of a text has no answers. -/
theorem withoutAnswers_ofText (text : String) : (ofText text).withoutAnswers = ofText text := by
  have unasked (v : Validation) : (ofValidation v).models.map ModelStatus.withoutAnswer = (ofValidation v).models := by
    rw [ofValidation, List.map_map]
    rfl
  unfold ofText
  split <;> rw [withoutAnswers]
  · rw [ofEntries, unasked]
  · rw [unasked]

/-- The report behind asking a host for its models: with its answers, or as it was if the host fails. -/
def toldBy (report : Preflight) (host : Host) : Preflight :=
  if host.failing = some "models_downloaded" then report else report.answeredBy host

theorem toldBy_of_failing {host : Host} (fails : host.failing = some "models_downloaded") :
    report.toldBy host = report := if_pos fails

theorem toldBy_of_working {host : Host} (works : host.failing ≠ some "models_downloaded") :
    report.toldBy host = report.answeredBy host := if_neg works

theorem withoutAnswers_toldBy (report : Preflight) (host : Host) :
    (report.toldBy host).withoutAnswers = report.withoutAnswers := by
  unfold toldBy
  split
  · rfl
  · exact withoutAnswers_withAnswers _

/-- A host that does not fail answers for all models. -/
theorem run_checkModels_of_working {host : Host} (works : host.failing ≠ some "models_downloaded") :
    report.checkModels.run host = (.ok (report.answeredBy host), host) := by
  unfold checkModels
  split
  case isTrue empty =>
    obtain ⟨valid, count, warnings, violations, models, files, renders⟩ := report
    obtain rfl : models = [] := List.isEmpty_iff.1 empty
    rfl
  case isFalse =>
    have answers := Host.run_query_of_working works
      fun h => (report.models.map ModelStatus.name).map h.downloaded.contains
    exact Attempt.run_bind_ok answers _

/-- A host that fails is not noticed where there is no model to ask about. -/
theorem run_checkModels_of_failing {host : Host} (fails : host.failing = some "models_downloaded") :
    report.checkModels.run host = (.ok report, host) ∨ ∃ e, report.checkModels.run host = (.error e, host) := by
  unfold checkModels
  split
  case isTrue => exact .inl rfl
  case isFalse =>
    have refuses := Host.run_query_of_failing fails
      fun h => (report.models.map ModelStatus.name).map h.downloaded.contains
    exact .inr ⟨_, Attempt.run_bind_error refuses _⟩

/-- Asking the host about models cannot fail and leaves it as it is. -/
theorem run_checkModelsIfTold_eq (report : Preflight) (host : Host) :
    report.checkModelsIfTold.run host = (.ok (report.toldBy host), host) := by
  rw [checkModelsIfTold, Attempt.run_orElse]
  by_cases fails : host.failing = some "models_downloaded"
  · rw [toldBy_of_failing fails]
    obtain asked | ⟨e, asked⟩ := run_checkModels_of_failing fails <;> rw [asked]
    rfl
  · rw [toldBy_of_working fails, run_checkModels_of_working fails]

end Preflight

end CanvasScript
