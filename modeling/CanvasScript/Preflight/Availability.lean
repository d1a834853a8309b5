import CanvasScript.Host
import CanvasScript.Preflight

/-!
# Availability of models

A host tells which of the models in a preflight are there. It is not asked when
there are none.
-/

namespace CanvasScript.Preflight

/-- The report with what the host says about its models. -/
def checkModels (report : Preflight) : HostAction Preflight :=
  if report.models.isEmpty then pure report
  else do return report.withAnswers (← Host.modelsDownloaded (report.models.map ModelStatus.name))

/-- The report as far as the host tells: one that does not answer leaves it as it is. -/
def checkModelsIfTold (report : Preflight) : HostAction Preflight :=
  report.checkModels.orElse fun _ => pure report

end CanvasScript.Preflight
