import CanvasScript.Proofs.Host.Handles
import CanvasScript.Proofs.Run.OnHost
import CanvasScript.Proofs.Run.State

/-!
# Images and masks in a run

Whatever a run gives to its host it has from the host, in the same run, unless it is a file
(`Script.runOn_handles`). An instruction that takes an image or a mask either makes it
itself or takes the mask of the stage, which is always one that was made (`Stage.Holds`).
-/

namespace CanvasScript

namespace Stage

/-- Behind a log the stage has calls that fit and have a property, and its mask is made by
one of them. -/
def Holds (log : List Call) (P : List Call → Prop) (s : Stage) : Prop :=
  ∃ made, s.host.calls.toList = log ++ made ∧ Call.Fits made ∧ (∀ mask ∈ s.mask, Call.Made made mask) ∧ P made

/-- The calls fit behind a log and the mask is made by one of them. -/
abbrev Sound (log : List Call) : Stage → Prop := Holds log fun _ => True

/-- An action leads from one property of the calls to another, and keeps the stage sound if it fails. -/
def Leads (log : List Call) (P : List Call → Prop) (x : StageAction α) (Q : α → List Call → Prop) : Prop :=
  x.Ensures (Holds log P) (fun a => Holds log (Q a)) (Sound log)

/-- Between two stages no image and no mask is taken, and the mask is the same. -/
structure Plain (before after : Stage) : Prop where
  host : Host.Adds (Host.takesHandle · = false) before.host after.host
  mask : after.mask = before.mask

/-- What is composed for an instruction that takes nothing and sets no mask is plain. -/
theorem Composed.plain {instruction : Instruction} {i j : Nat} {x y : StageAction α}
    (composed : Composed instruction i j x y) (takes : instruction.handleUse? = none)
    (sets : instruction.sets? ≠ some .mask) : x.Within Plain := by
  intro s
  have hosts : x.Within (BetweenHosts (Host.Adds (Host.takesHandle · = false))) := by
    refine composed.within_host fun {_ name _} op use host => (op.within_adds host).mono ?_
    rintro _ rfl
    refine Bool.eq_false_iff.2 fun taken => ?_
    rw [takes] at use
    exact absurd (use taken) nofun
  exact ⟨hosts s, (composed.within_keeps s).mask sets⟩

section Rules

variable {log : List Call} {P : List Call → Prop} {x : StageAction α}

theorem Holds.sound {s : Stage} (holds : Holds log P s) : Sound log s := by
  obtain ⟨made, calls, fits, mask, -⟩ := holds
  exact ⟨made, calls, fits, mask, trivial⟩

/-- A call that fits behind those made so far is added to them. -/
theorem Holds.push {Q : List Call → Prop} {s : Stage} {host : Host} {call : Call} (holds : Holds log P s)
    (pushed : host.calls = s.host.calls.push call) (fits : ∀ made, P made → call.FitsBehind made)
    (grows : ∀ made, P made → Q (made ++ [call])) : Holds log Q { s with host } := by
  obtain ⟨made, calls, fit, masks, here⟩ := holds
  refine ⟨made ++ [call], ?_, fit.push (fits made here), fun mask mem => (masks mask mem).append [call],
    grows made here⟩
  rw [pushed, Array.toList_push, calls, List.append_assoc]

/-- Calls that take nothing are added to those made so far. -/
theorem Holds.plain {Q : List Call → Prop} {s t : Stage} (holds : Holds log P s) (plain : Plain s t)
    (grows : ∀ made more, P made → Q (made ++ more)) : Holds log Q t := by
  obtain ⟨made, calls, fit, masks, here⟩ := holds
  obtain ⟨more, added, free⟩ := plain.host.calls
  refine ⟨made ++ more, ?_, fit.append fun call mem => (free call mem).1, fun mask mem => ?_, grows made more here⟩
  · rw [added, calls, List.append_assoc]
  · rw [plain.mask] at mem
    exact (masks mask mem).append more

namespace Leads

variable {Q : α → List Call → Prop}

theorem bind {f : α → StageAction β} {R : β → List Call → Prop} (first : Leads log P x Q)
    (second : ∀ a, Leads log (Q a) (f a) R) : Leads log P (x >>= f) R :=
  Attempt.Ensures.bind first second

/-- A plain action leads to what grows out of what held before. -/
theorem plain {Q : List Call → Prop} (plain : x.Within Plain) (grows : ∀ made more, P made → Q (made ++ more)) :
    Leads log P x fun _ => Q := by
  intro s holds
  rcases ends : x.run s with ⟨e | a, t⟩
  · exact holds.plain (plain.of_run ends) fun _ _ _ => trivial
  · exact holds.plain (plain.of_run ends) grows

/-- A call is made that fits behind those made so far. -/
theorem take {Q : List Call → Prop} (call : Call) (fits : ∀ made, P made → call.FitsBehind made)
    (grows : ∀ made, P made → Q (made ++ [call])) : Leads log P (onHost (Host.record call)) fun _ => Q := by
  intro s holds
  rw [run_onHost]
  rcases Host.run_record call s.host with ⟨e, failed⟩ | recorded
  · rw [failed]
    exact holds.sound
  · rw [recorded]
    exact holds.push rfl fits grows

/-- An image is made, and known from then on. -/
theorem image (what : String) {call : String → Call} (named : ∀ src, (call src).name = (call "").name)
    (makes : ∀ src, (call src).source? = some src) (free : ∀ src, Host.takesHandle (call src).name = false) :
    Leads log P (onHost (Host.newSrc what call)) fun src made => Call.Knows made src := by
  intro s holds
  rw [run_onHost]
  rcases Host.run_newSrc what named s.host with ⟨e, failed⟩ | done
  · rw [failed]
    exact holds.sound
  · rw [done]
    exact holds.push rfl (fun made _ => Call.fitsBehind_of_free (free _) made) fun made _ =>
      .inr ⟨_, List.mem_append_right made List.mem_cons_self, makes _⟩

/-- A mask is made by the last call. -/
theorem mask {call : MaskHandle → Call} (free : ∀ mask, Host.takesHandle (call mask).name = false) :
    Leads log P (onHost (Host.newMask call)) fun mask made => made.getLast? = some (call mask) := by
  intro s holds
  rw [run_onHost]
  rcases Host.run_newMask call s.host with ⟨e, failed⟩ | done
  · rw [failed]
    exact ⟨_, holds.sound.choose_spec⟩
  · rw [done]
    exact holds.push rfl (fun made _ => Call.fitsBehind_of_free (free _) made) fun _ _ => List.getLast?_concat

/-- What is read of the stage may rely on its mask being made. -/
theorem gets {f : Stage → α} (tells : ∀ s made, (∀ mask ∈ s.mask, Call.Made made mask) → Q (f s) made) :
    Leads log P (.gets f) Q := by
  rintro s ⟨made, calls, fit, masks, -⟩
  exact ⟨made, calls, fit, masks, tells s made masks⟩

protected theorem pure {a : α} (tells : ∀ made, P made → Q a made) : Leads log P (pure a) Q := by
  rintro s ⟨made, calls, fit, masks, here⟩
  exact ⟨made, calls, fit, masks, tells made here⟩

/-- A mask that is made becomes that of the stage. -/
theorem setMask {mask? : Option MaskHandle} (made : ∀ made, P made → ∀ mask ∈ mask?, Call.Made made mask) :
    Leads log P (setMask mask?) fun _ _ => True := by
  rintro s ⟨calls, added, fit, -, here⟩
  exact ⟨calls, added, fit, made calls here, trivial⟩

/-- A part of instructions that take nothing keeps what grows. -/
theorem part (composed : Composed .note 0 0 x x) (grows : ∀ made more, P made → P (made ++ more)) :
    Leads log P x fun _ => P :=
  .plain (composed.plain rfl nofun) grows

theorem idle (composed : Composed .note 0 0 x x) : Leads log (fun _ => True) x fun _ _ => True :=
  .part composed fun _ _ _ => trivial

end Leads

end Rules

section Instructions

variable {log : List Call} {P : List Call → Prop} (setting : Setting)

/-- The image on the canvas is known where it is used. -/
theorem leads_useCanvas {f : String → StageAction Unit}
    (use : ∀ src, Leads log (Call.Knows · src) (f src) fun _ _ => True) :
    Leads log P (onHost Host.saveImageSrc >>= f) fun _ _ => True :=
  (Leads.image "canvas" (fun _ => rfl) (fun _ => rfl) fun _ => rfl).bind use

theorem leads_wait (millis : Nat) : Leads log P (onHost (Host.settle millis)) fun _ _ => True :=
  .plain ((composed_wait millis : Composed .note 0 0 _ _).plain rfl nofun) fun _ _ _ => trivial

/-- A call that fits is made, and then it is waited. -/
theorem leads_takeAndWait (call : Call) (millis : Nat) (fits : ∀ made, P made → call.FitsBehind made) :
    Leads log P (do onHost (Host.record call); onHost (Host.settle millis)) fun _ _ => True :=
  Leads.bind (.take (Q := fun _ => True) call fits fun _ _ => trivial) fun _ => leads_wait millis

theorem leads_updateCanvasSize : Leads log (fun _ => True) updateCanvasSize fun _ _ => True :=
  .idle composed_updateCanvasSize

/-- Only a mask that was made is rendered with. -/
theorem leads_render (text : String) : Leads log (fun _ => True) (render setting text) fun _ _ => True := by
  refine (Leads.idle (.resolve _)).bind fun prompt => leads_updateCanvasSize.bind fun _ => ?_
  have request : Leads log (fun _ => True)
      (.gets fun s => s.request prompt) fun request made => (Call.render request).FitsBehind made :=
    .gets fun s made masks => masks
  refine request.bind fun request =>
    (Leads.take (Q := fun _ => True) (.render request) (fun _ fits => fits) fun _ _ => trivial).bind fun _ => ?_
  exact .plain (.modify fun s => ⟨refl_of _ s.host, rfl⟩) fun _ _ _ => trivial

theorem leads_crop : Leads log (fun _ => True) crop fun _ _ => True :=
  leads_updateCanvasSize.bind fun _ => leads_useCanvas fun src =>
    (Leads.part (.ask .clearCanvas rfl (by decide)) fun _ more knows => knows.append more).bind fun _ =>
      .take (.loadImageSrc src) (fun _ knows => knows) fun _ _ => trivial

theorem leads_addToMoodboard (src : String) :
    Leads log (Call.Knows · src) (onHost (Host.addToMoodboard [src])) fun _ _ => True :=
  .take (.addToMoodboard [src]) (fun _ knows => List.forall_mem_singleton.2 knows) fun _ _ => trivial

/-- A file can be taken at any time. -/
theorem leads_addFile (path : String) : Leads log (fun _ => True) (addFile setting path) fun _ _ => True := by
  refine leads_takeAndWait (.addToMoodboard [FilePath.url path]) _ fun made _ => ?_
  exact List.forall_mem_singleton.2 (.inl (FilePath.isUrl_url path))

/-- The mask is filled right after it is made. -/
theorem leads_maskOfQuery (entry : Entry) (model query : String) :
    Leads log (fun _ => True) (maskOfQuery entry model query) fun mask made => Call.Made made mask := by
  refine (Leads.idle (composed_queryRect _ _)).bind fun rect? =>
    (Leads.idle (.ask .canvasSize rfl (by decide))).bind fun canvas => (Leads.mask fun _ => rfl).bind fun mask => ?_
  have made (calls : List Call) (last : calls.getLast? = some (.createMask canvas .zero mask)) : Call.Made calls mask :=
    ⟨_, List.mem_of_getLast? last, rfl⟩
  have kept : Leads log (Call.Made · mask) (pure mask : StageAction MaskHandle) fun mask made => Call.Made made mask :=
    .pure fun _ made => made
  cases rect? with
  | none =>
    refine Leads.bind (.plain (.modify fun s => ⟨refl_of _ s.host, rfl⟩) fun calls more last => ?_) fun _ => kept
    exact (made calls last).append more
  | some rect =>
    refine Leads.bind (.take (.fillMaskRectangle mask.id rect _) (fun calls last => ⟨_, _, mask, last, rfl⟩)
      fun calls last => ?_) fun _ => kept
    exact (made calls last).append _

/-- The mask of the stage is taken, which was made. -/
theorem leads_maskGet (spot : Spot) : Leads log (fun _ => True) (perform setting spot .maskGet) fun _ _ => True := by
  have mask : Leads log (fun _ => True) (.gets Stage.mask) fun mask? made => ∀ mask ∈ mask?, Call.Made made mask :=
    .gets fun _ _ masks => masks
  refine mask.bind fun mask? => ?_
  cases mask? with
  | none => exact .pure fun _ _ => trivial
  | some mask => exact .take (.loadImageSrc mask.src) (fun _ made => (made mask rfl).knows) fun _ _ => trivial

/-- A mask that a call makes becomes that of the stage. -/
theorem leads_newMask {call : MaskHandle → Call} (makes : ∀ mask, (call mask).mask? = some mask)
    (free : ∀ mask, Host.takesHandle (call mask).name = false) :
    Leads log P (do Stage.setMask (some (← onHost (Host.newMask call)))) fun _ _ => True := by
  refine (Leads.mask free).bind fun mask => .setMask fun made last => ?_
  rintro _ ⟨⟩
  exact ⟨_, List.mem_of_getLast? last, makes mask⟩

/-- Whatever an instruction takes it has made, or the stage has it, or it is a file. -/
theorem leads_perform (spot : Spot) (instruction : Instruction) :
    Leads log (fun _ => True) (perform setting spot instruction) fun _ _ => True := by
  cases instruction with
  | prompt text => exact leads_render setting text
  | crop => exact leads_crop
  | removeBackground =>
    refine (Leads.mask fun _ => rfl).bind fun mask =>
      leads_takeAndWait (.loadMaskFromSrc mask.src) _ fun made last => ?_
    exact Call.Made.knows ⟨_, List.mem_of_getLast? last, rfl⟩
  | moodboardCanvas => exact leads_useCanvas fun src => (leads_addToMoodboard src).bind fun _ => leads_wait _
  | moodboardLoad =>
    exact leads_useCanvas fun src => (leads_addToMoodboard src).bind fun _ => .idle (.ask .clearCanvas rfl (by decide))
  | moodboardAdd path => exact (Leads.idle (composed_pathOf _)).bind fun _ => leads_addFile setting _
  | loopAddMoodboard directory =>
    exact (Leads.idle (composed_fileInTurn _ _)).bind fun _ => leads_addFile setting _
  | maskClear => exact .setMask nofun
  | maskLoad path =>
    have file (path : String) :
        Leads log (fun _ => True) (onHost (Host.loadMaskFromSrc (FilePath.url path))) fun _ _ => True :=
      .take (.loadMaskFromSrc _) (fun _ _ => .inl (FilePath.isUrl_url path)) fun _ _ => trivial
    exact (Leads.idle (composed_pathOf _)).bind fun path => (file path).bind fun _ =>
      (leads_wait _).bind fun _ => .setMask nofun
  | maskGet => exact leads_maskGet setting spot
  | maskBackground | maskForeground | maskBody _ => exact leads_newMask (fun _ => rfl) fun _ => rfl
  | maskAsk query =>
    refine (leads_maskOfQuery _ _ query).bind fun mask => .setMask ?_
    rintro calls made _ ⟨⟩
    exact made
  | depthExtract =>
    exact leads_useCanvas fun src => leads_takeAndWait (.extractDepthMap src) _ fun _ knows => knows
  | poseExtract =>
    exact leads_useCanvas fun src => leads_takeAndWait (.loadPoseFromSrc src) _ fun _ knows => knows
  | depthCanvas => exact leads_useCanvas fun src => .take (.loadDepthMap src) (fun _ knows => knows) fun _ _ => trivial
  | depthToCanvas =>
    exact (Leads.image "depth" (fun _ => rfl) (fun _ => rfl) fun _ => rfl).bind fun src =>
      .take (.loadImageSrc src) (fun _ knows => knows) fun _ _ => trivial
  -- All others take nothing and leave the mask.
  | _ => exact .plain ((composed_perform setting spot _).plain rfl nofun) fun _ _ _ => trivial

end Instructions

end Stage

namespace Script

variable {script : Script} {setting : Setting}

/-- A sound stage stays sound in a run. -/
theorem Runs.sound {log : List Call} {p : Position} {stage : Stage} {made : Array Visit} {result : RunResult}
    (runs : script.Runs setting p stage made result) (sound : stage.Sound log) : result.stage.Sound log :=
  runs.within (R := Attempt.Kept (Stage.Sound log))
    (fun spot instruction _ _ sound => (Stage.leads_perform setting spot instruction).run sound) sound

/-- A run is a part of the life of its host. -/
theorem lived_runOn (script : Script) (setting : Setting) (draws : Draws) :
    (script.runOn setting draws).Within (Attempt.Kept Host.Lived) := by
  intro host lived
  cases opened : Stage.open? host draws with
  | error e =>
    rw [runOn_of_error opened]
    exact lived
  | ok stage =>
    obtain rfl := Stage.eq_of_open? opened
    rw [runOn_of_ok opened]
    have kept : Stage.BetweenHosts (Attempt.Kept Host.Lived) (host.stage draws)
        (script.run setting (host.stage draws)).stage :=
      (script.runs_runFrom setting .start (host.stage draws) #[]).within fun spot instruction _ =>
        (Stage.composed_perform setting spot instruction).within_host (R := Attempt.Kept Host.Lived)
          fun op _ _ lived => lived.operation op
    exact kept lived

/-- **No handle dangles and none is made twice.** Every image that a call of a run takes is a
file or was made by an earlier call of the run; a mask is filled by the call right after the
one that made it; the masks that are rendered with, and the one that is left, were made in
the run. Over the life of a host all names it hands out are different. -/
theorem runOn_handles (script : Script) (setting : Setting) (draws : Draws) (host : Host) :
    let ends := (script.runOn setting draws).run host
    (∃ made, ends.2.calls.toList = host.calls.toList ++ made ∧
      (∀ i (call : Call), made[i]? = some call → call.FitsBehind (made.take i)) ∧
      ∀ summary, ends.1 = .ok summary → ∀ mask ∈ summary.stage.mask, Call.Made made mask) ∧
    (host.Lived → ends.2.Lived ∧ ends.2.handles.Nodup) := by
  intro ends
  refine ⟨?fits, fun lived => ?distinct⟩
  case fits =>
    cases opened : Stage.open? host draws with
    | error e =>
      have same : ends = _ := runOn_of_error opened
      rw [same]
      refine ⟨[], (List.append_nil _).symm, Call.fits_nil, fun summary summed => ?_⟩
      cases summed
    | ok stage =>
      obtain rfl := Stage.eq_of_open? opened
      have start : (host.stage draws).Sound host.calls.toList := by
        refine ⟨[], (List.append_nil _).symm, Call.fits_nil, fun mask mem => ?_, trivial⟩
        cases mem
      have sound : (script.run setting (host.stage draws)).stage.Sound host.calls.toList :=
        (script.runs_runFrom setting .start (host.stage draws) #[]).sound start
      obtain ⟨made, added, fits, masks, -⟩ := sound
      have log : ends.2 = (script.run setting (host.stage draws)).stage.host := congrArg Prod.snd (runOn_of_ok opened)
      refine ⟨made, log ▸ added, fits, fun summary summed => ?_⟩
      rw [(RunResult.stage_of_summary (summary_of_runOn opened summed)).2]
      exact masks
  case distinct =>
    have after := script.lived_runOn setting draws host lived
    exact ⟨after, Host.nodup_of_lived after⟩

/-- A mask that is asked for, a render with it, and a crop. -/
def maskedRender : Script where
  steps := [.run (.maskAsk "hat"), .run (.prompt "a hat"), .run .crop]

/-- The mask and the image of the crop have different names, and both are used. -/
theorem runOn_handles_maskedRender :
    let setting : Setting := { resolver := Settings.default.resolver .empty 64, settings := .default }
    let host : Host := { Host.ofPictures "/pics" with answerText := "[0.25, 0.125, 0.75, 0.625]" }
    let ends := (maskedRender.runOn setting (.ofSource fun _ => 0)).run host
    host.Lived ∧ ends.2.Lived ∧ ends.2.handles.Nodup ∧
      ends.2.handles = ["dryrun://mask/1", "mask-1", "dryrun://canvas/2"] ∧
      (∃ made, ends.2.calls.toList = host.calls.toList ++ made ∧ Call.Fits made) ∧
      ends.2.calls.toList.map Call.name = ["answer", "create_mask", "fill_mask_rectangle", "update_canvas_size", "render",
        "update_canvas_size", "save_image_src", "clear_canvas", "load_image_src"] := by
  intro setting host ends
  have lived : host.Lived := .fresh rfl rfl
  have log : ends.2 = _ := runOn_eq_segments rfl
  have handles : ends.2.handles = ["dryrun://mask/1", "mask-1", "dryrun://canvas/2"] := by
    rw [log]
    decide +kernel
  have names : ends.2.calls.toList.map Call.name = ["answer", "create_mask", "fill_mask_rectangle",
      "update_canvas_size", "render", "update_canvas_size", "save_image_src", "clear_canvas", "load_image_src"] := by
    rw [log]
    decide +kernel
  obtain ⟨⟨made, added, fits, -⟩, distinct⟩ := runOn_handles maskedRender setting (.ofSource fun _ => 0) host
  exact ⟨lived, (distinct lived).1, (distinct lived).2, handles, ⟨made, added, fits⟩, names⟩

end Script

end CanvasScript
