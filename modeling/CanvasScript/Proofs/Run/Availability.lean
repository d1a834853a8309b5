import CanvasScript.Proofs.Run.OnHost

/-!
# Runs do not regard which models are there

No instruction asks a host for its models, so a run does the same on a host without them, and on
one that does not fail to tell of them (`Host.withoutModels`). What an operation does not notice
(`Host.Operation.overlooks_models`) an instruction does not (`Stage.Composed.overlooks_models`), nor
does a run (`Script.runOn_withoutModels`). Hence two hosts that differ in their models alone
are left so, by runs that come out alike (`Script.runOn_alike`).
-/

namespace CanvasScript

/-- The host without what it tells of models: none is there, and it does not fail to tell so. -/
def Host.withoutModels (host : Host) : Host :=
  { host with downloaded := [], failing := host.failing.filter (· ≠ "models_downloaded") }

/-- The stage of a host without what that tells of models. -/
def Stage.withoutModels (s : Stage) : Stage := { s with host := s.host.withoutModels }

def RunSummary.withoutModels (summary : RunSummary) : RunSummary :=
  { summary with stage := summary.stage.withoutModels }

theorem Host.failing_withoutModels {name : String} (other : name ≠ "models_downloaded") (host : Host) :
    host.withoutModels.failing = some name ↔ host.failing = some name := by
  simp only [withoutModels, Option.filter_eq_some_iff, ne_eq, decide_eq_true_eq, and_iff_left other]

/-- Only the question for models regards them. -/
theorem Host.Operation.overlooks_models {name : String} {x : HostAction α} (op : Host.Operation name x)
    (other : name ≠ "models_downloaded") : x.Commutes (fun _ => True) Host.withoutModels := by
  intro host _
  have overlooks : Overlooks (fun _ => []) (·.filter (· ≠ "models_downloaded")) host.failing x :=
    op.overlooks (fun asked => absurd asked other) fun _ => Host.failing_withoutModels other host
  exact ⟨(overlooks host rfl).1, trivial⟩

/-- No instruction gives anything to the question for models. -/
theorem Instruction.handleUse?_ne (instruction : Instruction) :
    instruction.handleUse? ≠ some "models_downloaded" := by
  cases instruction <;> simp [handleUse?]

namespace Stage

theorem overlooks_onHost {x : HostAction α} (overlooks : x.Commutes (fun _ => True) Host.withoutModels) :
    (onHost x).Commutes (fun _ => True) withoutModels := by
  intro s _
  refine ⟨?_, trivial⟩
  rw [run_onHost, run_onHost, withoutModels, (overlooks s.host trivial).1]
  rfl

/-- What an instruction does, it does on a host without models. -/
theorem Composed.overlooks_models {instruction : Instruction} {i j : Nat} {x y : StageAction α}
    (composed : Composed instruction i j x y) : x.Commutes (fun _ => True) withoutModels := by
  induction composed with
  | pure a => exact .pure a
  | fail e => exact .fail e
  | read f blind => exact .gets fun s => blind s _ _ s.recoveries
  | resolve z =>
    intro s _
    rw [run_onDraws, run_onDraws]
    exact ⟨rfl, trivial⟩
  | ask op _ other => exact overlooks_onHost (op.overlooks_models other)
  | give op own =>
    refine overlooks_onHost (op.overlooks_models ?_)
    rintro rfl
    exact instruction.handleUse?_ne own
  | setConfiguration | setNegativePrompt | setMask | countRender | recover => exact .modify (fun _ => rfl) fun _ => id
  | bind _ _ first second => exact first.bind second
  | orElse _ _ _ first second => exact first.orElse second

/-- A host without models is opened as it is with them. -/
theorem open?_withoutModels (host : Host) (draws : Draws) :
    open? host.withoutModels draws = (open? host draws).map withoutModels := by
  simp only [open?_eq, Host.failing_withoutModels (by decide : "configuration" ≠ "models_downloaded"),
    Host.failing_withoutModels (by decide : "negative_prompt" ≠ "models_downloaded")]
  split_ifs <;> rfl

end Stage

namespace Script

variable {script : Script} {setting : Setting} {draws : Draws} {host other : Host}

/-- A run does the same on a host without models. -/
theorem runOn_withoutModels (script : Script) (setting : Setting) (draws : Draws) (host : Host) :
    (script.runOn setting draws).run host.withoutModels =
      (((script.runOn setting draws).run host).1.map RunSummary.withoutModels,
        ((script.runOn setting draws).run host).2.withoutModels) := by
  have opening := Stage.open?_withoutModels host draws
  cases opened : Stage.open? host draws with
  | error e =>
    rw [opened] at opening
    rw [runOn_of_error opening, runOn_of_error opened]
    rfl
  | ok stage =>
    rw [opened] at opening
    have runs := (script.runs_runFrom setting .start stage #[]).commutes fun spot instruction _ =>
      (Stage.composed_perform setting spot instruction).overlooks_models
    have same : script.run setting stage.withoutModels =
        { script.run setting stage with stage := (script.run setting stage).stage.withoutModels } := runs.runFrom_eq
    rw [runOn_of_ok opening, runOn_of_ok opened, same]
    unfold RunResult.summary
    cases (script.run setting stage).outcome <;> rfl

/-- Runs on hosts that differ in nothing but their models come out alike. -/
theorem runOn_alike (script : Script) (setting : Setting) (draws : Draws)
    (alike : host.withoutModels = other.withoutModels) :
    ((script.runOn setting draws).run host).1.map RunSummary.withoutModels =
        ((script.runOn setting draws).run other).1.map RunSummary.withoutModels ∧
      ((script.runOn setting draws).run host).2.withoutModels =
        ((script.runOn setting draws).run other).2.withoutModels := by
  have here := script.runOn_withoutModels setting draws host
  have there := script.runOn_withoutModels setting draws other
  rw [alike] at here
  exact Prod.mk.inj (here.symm.trans there)

end Script

end CanvasScript
