import CanvasScript.Proofs.Configuration.Changes
import CanvasScript.Proofs.Run.Operations

/-!
# The state of a run

The state of a run is what the next render will have, and the active loop (`RunState`). What
becomes of each part of it behind an instruction is told by the part alone, the texts that
are resolved and what the host answers (`Instruction.affect`): an instruction that succeeds
does just that (`Stage.state_of_perform`). Of the configuration it changes the fields that it
puts something into (`Instruction.get?_configurationAfter`).
-/

namespace CanvasScript

/-- The configuration, negative prompt and mask of the next render, and the active loop. -/
@[ext]
structure RunState where
  configuration : Configuration
  negativePrompt : String
  mask : Option MaskHandle
  frame : Option LoopFrame

/-- The bounds of what is on the canvas. -/
def Host.contentBounds (host : Host) : Rect Binary64 :=
  host.bounds.getD (Rect.of .zero .zero host.canvas.width host.canvas.height)

namespace Instruction

/-- The configuration behind an instruction. -/
def configurationAfter (setting : Setting) (host : Host) (draws : Draws) (configuration : Configuration) :
    Instruction → Configuration
  | config patch | inpaintTools patch =>
    match ((setting.resolver.configFields patch).run draws).1 with
    | .ok resolved => configuration.merge resolved
    | .error _ => configuration
  | frames count => configuration.setFrames count
  | adaptSize limits =>
    let size := host.contentBounds.size
    configuration.setSize { width := size.width.min limits.width, height := size.height.min limits.height }
  | latentSizes tiers => configuration.setLatentSizes tiers
  | _ => configuration

/-- What an instruction puts into the configuration, field by field. -/
def puts (setting : Setting) (host : Host) (draws : Draws) : Instruction → Json.Fields
  | config patch | inpaintTools patch =>
    match ((setting.resolver.configFields patch).run draws).1 with
    | .ok resolved => resolved
    | .error _ => []
  | frames count => [("numFrames", count)]
  | adaptSize limits =>
    let size := host.contentBounds.size
    [("width", Configuration.lengthValue (size.width.min limits.width)),
      ("height", Configuration.lengthValue (size.height.min limits.height))]
  | latentSizes tiers => Configuration.latentFields tiers
  | _ => []

theorem configurationAfter_eq_merge (instruction : Instruction) (setting : Setting) (host : Host) (draws : Draws)
    (c : Configuration) :
    instruction.configurationAfter setting host draws c = c.merge (instruction.puts setting host draws) := by
  cases instruction with
  | config patch | inpaintTools patch =>
    unfold configurationAfter puts
    dsimp only
    split <;> rfl
  | frames count => exact c.setFrames_eq_merge count
  | adaptSize limits => exact c.setSize_eq_merge _
  | latentSizes tiers => exact c.setLatentSizes_eq_merge tiers
  | _ => rfl

/-- A field of the configuration has what an instruction puts into it last, and else keeps its value. -/
theorem get?_configurationAfter (instruction : Instruction) (setting : Setting) (host : Host) (draws : Draws)
    (c : Configuration) (field : String) :
    (instruction.configurationAfter setting host draws c).get? field =
      (Json.Fields.get? field (instruction.puts setting host draws).reverse).or (c.get? field) := by
  rw [configurationAfter_eq_merge, Configuration.get?_merge]

/-- The negative prompt behind an instruction. -/
def negativePromptAfter (setting : Setting) (draws : Draws) (text : String) : Instruction → String
  | negativePrompt written =>
    match ((Shortcut.onString setting.resolver.prompt written).run draws).1 with
    | .ok resolved => resolved
    | .error _ => text
  | _ => text

/-- The mask behind an instruction: a new one is the next that the host hands out. -/
def maskAfter (host : Host) (mask? : Option MaskHandle) : Instruction → Option MaskHandle
  | maskClear | maskLoad _ => none
  | maskBackground | maskForeground | maskBody _ | maskAsk _ => some (Host.maskOf (host.handedOut + 1))
  | _ => mask?

/-- The loop that is active behind an instruction at a step. -/
def frameAfter (index : Nat) (frame? : Option LoopFrame) : Instruction → Option LoopFrame
  | loop spec => some (frame?.getD (LoopFrame.start index spec))
  | loopEnd => (frame?.map LoopFrame.advance).filter LoopFrame.continues
  | _ => frame?

/-- The state behind an instruction at a step. -/
def affect (setting : Setting) (index : Nat) (host : Host) (draws : Draws) (instruction : Instruction)
    (state : RunState) : RunState where
  configuration := instruction.configurationAfter setting host draws state.configuration
  negativePrompt := instruction.negativePromptAfter setting draws state.negativePrompt
  mask := instruction.maskAfter host state.mask
  frame := instruction.frameAfter index state.frame

end Instruction

namespace Stage

/-- The state of a run with a stage and a loop. -/
def state (s : Stage) (frame : Option LoopFrame) : RunState where
  configuration := s.configuration
  negativePrompt := s.negativePrompt
  mask := s.mask
  frame

/-- What is rendered at a stage with a prompt. -/
def request (s : Stage) (prompt : String) : RenderRequest where
  configuration := s.configuration
  prompt
  negativePrompt := s.negativePrompt
  mask := s.mask

variable {setting : Setting} {spot : Spot} {instruction : Instruction} {s t : Stage}

/-- A text that is resolved takes draws and nothing else. -/
theorem draws_of_onDraws {x : Shortcut.Resolving α} {a : α} (done : (onDraws x).run s = (.ok a, t)) :
    (x.run s.draws).1 = .ok a ∧ t = { s with draws := (x.run s.draws).2 } := by
  rw [run_onDraws] at done
  obtain ⟨outcome, rfl⟩ := Prod.mk.inj done
  exact ⟨Outcome.mapError_eq_ok_iff.1 outcome, rfl⟩

/-- What any instruction may do leaves the configuration. -/
theorem configuration_of_note {x : StageAction α} {outcome : Except EngineError α} (done : x.run s = (outcome, t))
    (composed : Composed .note 0 0 x x) : t.configuration = s.configuration :=
  (composed.within_keeps.of_run done).configuration nofun

/-- The configuration is given the size of what is on the canvas, and is not set again. -/
theorem configuration_of_adaptSize {limits : SizeLimits}
    (done : (perform setting spot (.adaptSize limits)).run s = (.ok (), t)) :
    t.configuration = (Instruction.adaptSize limits).configurationAfter setting s.host s.draws s.configuration := by
  obtain ⟨_, u, adapted, waited⟩ := Attempt.run_bind_eq_ok_iff.1 done
  obtain ⟨_, v, settled, adapting⟩ := Attempt.run_bind_eq_ok_iff.1 adapted
  obtain ⟨bounds, w, asked, sized⟩ := Attempt.run_bind_eq_ok_iff.1 adapting
  have content : v.host.contentBounds = s.host.contentBounds := by
    rw [← (Prod.mk.inj (host_of_onHost settled).1).2]
    rfl
  obtain ⟨told, rfl⟩ := query_of_onHost asked
  have told : bounds = s.host.contentBounds := told.trans content
  split at sized
  · cases sized
  · obtain ⟨_, x, set, later⟩ := Attempt.run_bind_eq_ok_iff.1 sized
    have here : x.configuration = w.configuration.setSize
        { width := bounds.size.width.min limits.width, height := bounds.size.height.min limits.height } := by
      rw [← (Prod.mk.inj set).2]
    calc t.configuration
      _ = u.configuration := configuration_of_note waited (composed_wait _)
      _ = x.configuration := configuration_of_note later (.bind composed_updateCanvasSize fun _ =>
        .bind (.ask (.setCanvasZoom _) rfl (by decide)) fun _ => .ask (.moveCanvas _) rfl (by decide))
      _ = (Instruction.adaptSize limits).configurationAfter setting s.host s.draws s.configuration := by
        rw [here, told, configuration_of_note settled (composed_wait _)]
        rfl

/-- The configuration behind an instruction that succeeds. -/
theorem configuration_of_perform (done : (perform setting spot instruction).run s = (.ok (), t)) :
    t.configuration = instruction.configurationAfter setting s.host s.draws s.configuration := by
  have keeps := keeps_of_perform done
  cases instruction with
  | config patch | inpaintTools patch =>
    obtain ⟨resolved, u, resolving, set⟩ := Attempt.run_bind_eq_ok_iff.1 done
    obtain ⟨given, rfl⟩ := draws_of_onDraws resolving
    cases set
    simp only [Instruction.configurationAfter, given]
  | frames count | latentSizes tiers =>
    cases done
    rfl
  | adaptSize limits => exact configuration_of_adaptSize done
  | _ => exact keeps.configuration nofun

/-- The negative prompt behind an instruction that succeeds. -/
theorem negativePrompt_of_perform (done : (perform setting spot instruction).run s = (.ok (), t)) :
    t.negativePrompt = instruction.negativePromptAfter setting s.draws s.negativePrompt := by
  have keeps := keeps_of_perform done
  cases instruction with
  | negativePrompt text =>
    obtain ⟨resolved, u, resolving, set⟩ := Attempt.run_bind_eq_ok_iff.1 done
    obtain ⟨given, rfl⟩ := draws_of_onDraws resolving
    cases set
    simp only [Instruction.negativePromptAfter, given]
  | _ => exact keeps.negativePrompt nofun

/-- The mask behind an instruction that succeeds. -/
theorem mask_of_perform (done : (perform setting spot instruction).run s = (.ok (), t)) :
    t.mask = instruction.maskAfter s.host s.mask := by
  have keeps := keeps_of_perform done
  cases instruction with
  | maskClear =>
    cases done
    rfl
  | maskLoad path =>
    obtain ⟨_, _, -, loading⟩ := Attempt.run_bind_eq_ok_iff.1 done
    obtain ⟨_, _, -, waiting⟩ := Attempt.run_bind_eq_ok_iff.1 loading
    obtain ⟨_, _, -, set⟩ := Attempt.run_bind_eq_ok_iff.1 waiting
    cases set
    rfl
  | maskBackground | maskForeground | maskBody _ =>
    obtain ⟨mask, u, made, set⟩ := Attempt.run_bind_eq_ok_iff.1 done
    cases set
    exact congrArg some (withMask_of_newMask made).1
  | maskAsk query =>
    obtain ⟨mask, u, asked, set⟩ := Attempt.run_bind_eq_ok_iff.1 done
    cases set
    exact congrArg some (masked_of_maskOfQuery asked).1
  | _ => exact keeps.mask nofun

/-- An instruction that succeeds leaves the state that it is told to leave. -/
theorem state_of_perform (done : (perform setting spot instruction).run s = (.ok (), t)) (frame : Option LoopFrame) :
    t.state (instruction.frameAfter spot.index frame) =
      instruction.affect setting spot.index s.host s.draws (s.state frame) :=
  RunState.ext (configuration_of_perform done) (negativePrompt_of_perform done) (mask_of_perform done) rfl

end Stage

end CanvasScript
