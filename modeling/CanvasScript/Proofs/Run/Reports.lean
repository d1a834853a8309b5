import CanvasScript.Proofs.Run.Stepwise

/-!
# What runs report

The positions that a run reports are those of instructions of its script that can be
reported so: of one that can fail, of the `end` at which it ended, of those that were put
right and of the `loop` that is active (`Script.reports_run`).
-/

namespace CanvasScript

/-- The loop that is active behind an instruction is one that was active before or starts
with it. -/
theorem Position.frame_of_after? {p q : Position} {instruction : Instruction} {frame : LoopFrame}
    (after : p.after? instruction = some q) (active : q.frame = some frame) :
    (∃ before, p.frame = some before ∧ frame.marker = before.marker) ∨
      ∃ spec, instruction = .loop spec ∧ frame.marker = p.pointer := by
  cases instruction with
  | finish => cases after
  | loop spec =>
    cases after
    have entered : p.entered (.loop spec) = some frame := active
    cases here : p.frame with
    | none =>
      simp only [Position.entered, here] at entered
      cases entered
      exact .inr ⟨spec, rfl, rfl⟩
    | some before =>
      simp only [Position.entered, here] at entered
      cases entered
      exact .inl ⟨_, rfl, rfl⟩
  | loopEnd =>
    cases after
    unfold endLoop at active
    cases here : p.frame with
    | none =>
      simp only [here] at active
      cases here.symm.trans active
    | some before =>
      simp only [here] at active
      split at active
      · cases active
        exact .inl ⟨before, rfl, rfl⟩
      · cases active
  | _ =>
    cases after
    exact .inl ⟨frame, active, rfl⟩

namespace Script

/-- An event stands where an instruction is that recovers so. -/
def Recovers (script : Script) (event : RecoveryEvent) : Prop :=
  ∃ instruction, script.steps[event.index]? = some (.run instruction) ∧ instruction.kind = event.kind ∧
    instruction.recovery? = some event.recovery

/-- A loop starts at the marker of a frame. -/
def Starts (script : Script) (frame : LoopFrame) : Prop :=
  ∃ spec, script.steps[frame.marker]? = some (.run (.loop spec))

/-- A result reports what can be reported of the script. -/
structure Reports (script : Script) (result : RunResult) : Prop where
  failed : ∀ e, result.outcome = .error e → ∃ instruction, script.steps[e.index]? = some (.run instruction) ∧
    instruction.kind = e.kind ∧ instruction ≠ .note
  ended : ∀ i, result.outcome = .ok (.ended i) → script.steps[i]? = some (.run .finish)
  recovered : ∀ event ∈ result.stage.recoveries.toList, script.Recovers event
  looping : ∀ frame, result.frame = some frame → script.Starts frame

variable {script : Script} {setting : Setting}

/-- All that is put right was, or is put right by the instruction at hand. -/
theorem recovers_of_keeps {instruction : Instruction} {i : Nat} (step : script.steps[i]? = some (.run instruction))
    {stage stage' : Stage} (keeps : Stage.Keeps instruction i stage stage')
    (recovered : ∀ event ∈ stage.recoveries.toList, script.Recovers event) :
    ∀ event ∈ stage'.recoveries.toList, script.Recovers event := by
  obtain ⟨made, log, here⟩ := keeps.recoveries
  rw [log]
  refine List.forall_mem_append.2 ⟨recovered, fun event mem => ?_⟩
  obtain ⟨index, kind, recovery⟩ := here event mem
  exact ⟨instruction, index ▸ step, kind.symm, recovery⟩

/-- What a run reports from a position on is as it must be, if what was reported before is. -/
theorem Runs.reports {p : Position} {stage : Stage} {made : Array Visit} {result : RunResult}
    (runs : script.Runs setting p stage made result) (started : ∀ frame, p.frame = some frame → script.Starts frame)
    (recovered : ∀ event ∈ stage.recoveries.toList, script.Recovers event) : script.Reports result := by
  induction runs with
  | behind =>
    refine ⟨fun _ failed => ?_, fun _ ended => ?_, recovered, started⟩
    · cases failed
    · cases ended
  | skip _ _ ih => exact ih started recovered
  | @fail _ _ _ _ instruction _ step failed =>
    have recovered := recovers_of_keeps step (Stage.keeps_of_perform failed) recovered
    refine ⟨fun e same => ?_, fun _ ended => ?_, recovered, started⟩
    · cases same
      refine ⟨instruction, step, rfl, ?_⟩
      rintro rfl
      cases failed
    · cases ended
  | onward step done after _ ih =>
    refine ih (fun frame active => ?_) (recovers_of_keeps step (Stage.keeps_of_perform done) recovered)
    rcases Position.frame_of_after? after active with ⟨before, was, same⟩ | ⟨spec, rfl, same⟩
    · rw [Starts, same]
      exact started before was
    · rw [Starts, same]
      exact ⟨spec, step⟩
  | @finish _ _ _ _ instruction step done ends =>
    have recovered := recovers_of_keeps step (Stage.keeps_of_perform done) recovered
    refine ⟨fun _ failed => ?_, fun i same => ?_, recovered, started⟩
    · cases failed
    · cases same
      cases instruction with
      | finish => exact step
      | _ => cases ends

/-- What a run reports can be reported of its script. -/
theorem reports_run (script : Script) (setting : Setting) (host : Host) (draws : Draws) (configuration : Configuration)
    (negativePrompt : String) :
    script.Reports (script.run setting (.ofHost host draws configuration negativePrompt)) :=
  (script.runs_runFrom setting .start _ #[]).reports nofun (List.forall_mem_nil _)

end Script

end CanvasScript
