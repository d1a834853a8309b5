import CanvasScript.Proofs.Host.Operation
import CanvasScript.Run.Perform

/-!
# What instructions are composed of

Everything that an instruction does is composed of operations of the host, of resolving
texts, and of changes of the stage that are its own (`Stage.Composed`, `composed_perform`):
which part of the stage it sets, which operation it gives images and masks to, and how it
recovers can be told from its kind. Carried out for another entry it is composed alike
(`composed_perform_alike`).
What all operations keep between two hosts a whole instruction keeps
(`Composed.within_host`), and the rest of the stage changes as its kind tells
(`Composed.within_keeps`).
-/

namespace CanvasScript

/-- A part of what the next render will have. -/
inductive Stage.Part where
  | configuration
  | negativePrompt
  | mask
  deriving DecidableEq

namespace Instruction

/-- The operation to which an instruction gives images or masks. -/
def handleUse? : Instruction → Option String
  | prompt _ => some "render"
  | crop | maskGet | depthToCanvas => some "load_image_src"
  | removeBackground | maskLoad _ => some "load_mask_from_src"
  | moodboardCanvas | moodboardLoad | moodboardAdd _ | loopAddMoodboard _ => some "add_to_moodboard"
  | maskAsk _ => some "fill_mask_rectangle"
  | depthExtract => some "extract_depth_map"
  | depthCanvas => some "load_depth_map"
  | poseExtract => some "load_pose_from_src"
  | _ => none

/-- The part of the stage that an instruction sets. -/
def sets? : Instruction → Option Stage.Part
  | config _ | inpaintTools _ | frames _ | adaptSize _ | latentSizes _ => some .configuration
  | negativePrompt _ => some .negativePrompt
  | maskClear | maskLoad _ | maskBackground | maskForeground | maskBody _ | maskAsk _ => some .mask
  | _ => none

/-- What an instruction does in place of something that failed. -/
def recovery? : Instruction → Option Recovery
  | faceZoom | askZoom _ => some .resetZoom
  | maskAsk _ => some .emptyMask
  | _ => none

end Instruction

namespace Stage

theorem run_onHost (x : HostAction α) (s : Stage) :
    (onHost x).run s = ((x.run s.host).1.mapError .host, { s with host := (x.run s.host).2 }) := by
  rw [onHost, Attempt.run_onPart]
  rcases x.run s.host with ⟨_ | a, host⟩ <;> rfl

theorem run_onDraws (x : Shortcut.Resolving α) (s : Stage) :
    (onDraws x).run s = ((x.run s.draws).1.mapError .resolve, { s with draws := (x.run s.draws).2 }) := by
  rw [onDraws, Attempt.run_onPart]
  rcases x.run s.draws with ⟨_ | a, draws⟩ <;> rfl

/-- Two actions, for an instruction at one entry and at another, are composed alike of
what the instruction may do. -/
inductive Composed (instruction : Instruction) (i j : Nat) : {α : Type} → StageAction α → StageAction α → Prop where
  | pure (a : α) : Composed instruction i j (pure a) (pure a)
  | fail (e : EngineError) : Composed instruction i j (.fail e : StageAction α) (.fail e)
  /-- What is read of the stage is not its recoveries, nor what the host refuses or which models it has. -/
  | read (f : Stage → α)
      (blind : ∀ s failing downloaded recoveries,
        f { s with host := { s.host with failing, downloaded }, recoveries } = f s) :
      Composed instruction i j (.gets f) (.gets f)
  | resolve (x : Shortcut.Resolving α) : Composed instruction i j (onDraws x) (onDraws x)
  /-- The host is not asked for its models. -/
  | ask {name : String} {x : HostAction α} (op : Host.Operation name x) (free : Host.takesHandle name = false)
      (other : name ≠ "models_downloaded" := by decide) : Composed instruction i j (onHost x) (onHost x)
  | give {name : String} {x : HostAction α} (op : Host.Operation name x) (own : instruction.handleUse? = some name) :
      Composed instruction i j (onHost x) (onHost x)
  | setConfiguration (f : Configuration → Configuration) (own : instruction.sets? = some .configuration) :
      Composed instruction i j (setConfiguration f) (setConfiguration f)
  | setNegativePrompt (text : String) (own : instruction.sets? = some .negativePrompt) :
      Composed instruction i j (setNegativePrompt text) (setNegativePrompt text)
  | setMask (mask : Option MaskHandle) (own : instruction.sets? = some .mask) :
      Composed instruction i j (setMask mask) (setMask mask)
  | countRender (own : instruction.handleUse? = some "render") :
      Composed instruction i j (.modify fun s => { s with renders := s.renders + 1 })
        (.modify fun s => { s with renders := s.renders + 1 })
  | recover (recovery : Recovery) (reason : String) (own : instruction.recovery? = some recovery) :
      Composed instruction i j (recover { index := i, kind := instruction.kind, recovery, reason })
        (recover { index := j, kind := instruction.kind, recovery, reason })
  | bind {x y : StageAction α} {f g : α → StageAction β} (first : Composed instruction i j x y)
      (second : ∀ a, Composed instruction i j (f a) (g a)) : Composed instruction i j (x >>= f) (y >>= g)
  /-- Only looking for faces goes on after a failure. -/
  | orElse {x y : StageAction α} {f g : EngineError → StageAction α} (own : instruction = .faceZoom)
      (first : Composed instruction i j x y) (second : ∀ e, Composed instruction i j (f e) (g e)) :
      Composed instruction i j (x.orElse f) (y.orElse g)

section Parts

variable {instruction : Instruction} {i j : Nat}

theorem Composed.forM {list : List α} {f : α → StageAction PUnit} (each : ∀ a, Composed instruction i j (f a) (f a)) :
    Composed instruction i j (list.forM f) (list.forM f) := by
  induction list with
  | nil => exact .pure _
  | cons a list ih => exact (each a).bind fun _ => ih

theorem composed_wait (millis : Nat) :
    Composed instruction i j (onHost (Host.settle millis)) (onHost (Host.settle millis)) :=
  .ask (.settle millis) rfl (by decide)

theorem composed_viewport :
    Composed instruction i j (.gets fun s => s.configuration.size) (.gets fun s => s.configuration.size) :=
  .read _ fun _ _ _ _ => rfl

theorem composed_pathOf (path : String) : Composed instruction i j (pathOf path) (pathOf path) :=
  .read _ fun _ _ _ _ => rfl

theorem composed_updateCanvasSize : Composed instruction i j updateCanvasSize updateCanvasSize :=
  .bind (.read _ fun _ _ _ _ => rfl) fun configuration => .ask (.updateCanvasSize configuration) rfl (by decide)

theorem composed_applyPlacement (placement : Placement Binary64) :
    Composed instruction i j (applyPlacement placement) (applyPlacement placement) := by
  unfold applyPlacement
  split
  · exact .bind (.ask (.moveCanvas _) rfl (by decide)) fun _ => .ask (.setCanvasZoom _) rfl (by decide)
  · exact .bind (.ask (.setCanvasZoom _) rfl (by decide)) fun _ => .ask (.moveCanvas _) rfl (by decide)

theorem composed_resetZoom (own : instruction.recovery? = some .resetZoom) (reason : String) :
    Composed instruction i j (resetZoom { index := i, kind := instruction.kind } reason)
      (resetZoom { index := j, kind := instruction.kind } reason) :=
  .bind (.recover .resetZoom reason own) fun _ => .bind composed_viewport fun _ => composed_applyPlacement _

theorem composed_zoomTo (own : instruction.recovery? = some .resetZoom) (region? : Option (Rect Binary64))
    (missing : String) :
    Composed instruction i j (zoomTo { index := i, kind := instruction.kind } region? missing)
      (zoomTo { index := j, kind := instruction.kind } region? missing) := by
  refine .bind composed_viewport fun viewport => .bind (.ask .canvasSize rfl (by decide)) fun canvas =>
    .bind (.ask .canvasZoom rfl (by decide)) fun current => ?_
  dsimp only
  split
  · exact composed_applyPlacement _
  · exact composed_resetZoom own _

theorem composed_queryRect (model query : String) :
    Composed instruction i j (queryRect model query) (queryRect model query) :=
  .bind (.ask (.answer _ _) rfl (by decide)) fun _ => .bind (.ask .canvasSize rfl (by decide)) fun _ => .pure _

theorem composed_fileInTurn (counter : Int) (directory : String) :
    Composed instruction i j (fileInTurn counter directory) (fileInTurn counter directory) := by
  refine .bind (.ask (.readEntries directory) rfl (by decide)) fun entries => ?_
  cases entryInTurn? entries counter with
  | none => exact .fail _
  | some entry => exact .pure entry

theorem composed_addFile (setting : Setting) (own : instruction.handleUse? = some "add_to_moodboard") (path : String) :
    Composed instruction i j (addFile setting path) (addFile setting path) :=
  .bind (.give (.addToMoodboard _) own) fun _ => composed_wait _

theorem composed_configure (setting : Setting) (own : instruction.sets? = some .configuration) (patch : Json.Fields) :
    Composed instruction i j (configure setting patch) (configure setting patch) :=
  .bind (.resolve _) fun _ => .setConfiguration _ own

/-- An operation on the image on the canvas. -/
theorem composed_useCanvas {f : String → StageAction α} (use : ∀ src, Composed instruction i j (f src) (f src)) :
    Composed instruction i j (onHost Host.saveImageSrc >>= f) (onHost Host.saveImageSrc >>= f) :=
  .bind (.ask .saveImageSrc rfl (by decide)) use

end Parts

theorem composed_faceZoom (i j : Nat) :
    Composed .faceZoom i j (faceZoom { index := i, kind := .faceZoom }) (faceZoom { index := j, kind := .faceZoom }) :=
  .orElse rfl (.bind (.ask .detectFaces rfl (by decide)) fun faces => composed_zoomTo rfl faces.head? _) fun _ =>
    composed_resetZoom rfl _

theorem composed_maskOfQuery (model query : String) (i j : Nat) :
    Composed (.maskAsk query) i j (maskOfQuery { index := i, kind := .maskAsk } model query)
      (maskOfQuery { index := j, kind := .maskAsk } model query) := by
  refine .bind (composed_queryRect _ _) fun rect? => .bind (.ask .canvasSize rfl (by decide)) fun canvas =>
    .bind (.ask (.createMask _ _) rfl (by decide)) fun mask => ?_
  cases rect? with
  | none => exact .bind (.recover .emptyMask _ rfl) fun _ => .pure _
  | some rect => exact .bind (.give (.fillMaskRectangle _ _ _) rfl) fun _ => .pure _

theorem composed_adaptSize (setting : Setting) (limits : SizeLimits) (i j : Nat) :
    Composed (.adaptSize limits) i j (adaptSize setting limits) (adaptSize setting limits) := by
  refine .bind (composed_wait _) fun _ => .bind (.ask .bounds rfl (by decide)) fun bounds => ?_
  split
  · exact .fail _
  · exact .bind (.setConfiguration _ rfl) fun _ => .bind composed_updateCanvasSize fun _ =>
      .bind (.ask (.setCanvasZoom _) rfl (by decide)) fun _ => .ask (.moveCanvas _) rfl (by decide)

theorem composed_render (setting : Setting) (text : String) (i j : Nat) :
    Composed (.prompt text) i j (render setting text) (render setting text) :=
  .bind (.resolve _) fun _ => .bind composed_updateCanvasSize fun _ =>
    .bind (.read _ fun _ _ _ _ => rfl) fun _ => .bind (.give (.render _) rfl) fun _ => .countRender rfl

/-- An instruction is composed of what it may do, alike at two entries where the loop is in
the same pass. -/
theorem composed_perform_alike (setting : Setting) {spot spot' : Spot} (counter : spot'.counter = spot.counter)
    (number : spot'.number = spot.number) (instruction : Instruction) :
    Composed instruction spot.index spot'.index (perform setting spot instruction)
      (perform setting spot' instruction) := by
  cases instruction with
  | note | loop _ | loopEnd | finish => exact .pure ()
  | prompt text => exact composed_render setting text _ _
  | negativePrompt text => exact .bind (.resolve _) fun _ => .setNegativePrompt _ rfl
  | config patch | inpaintTools patch => exact composed_configure setting rfl patch
  | frames count => exact .setConfiguration (fun c => c.setFrames count) rfl
  | latentSizes tiers => exact .setConfiguration (fun c => c.setLatentSizes tiers) rfl
  | faceZoom => exact composed_faceZoom _ _
  | askZoom query => exact .bind (composed_queryRect _ _) fun rect? => composed_zoomTo rfl rect? _
  | moveScale _ => exact .bind (.ask (.moveCanvas _) rfl (by decide)) fun _ => .ask (.setCanvasZoom _) rfl (by decide)
  | adaptSize limits => exact .bind (composed_adaptSize setting limits _ _) fun _ => composed_wait _
  | crop =>
    exact .bind composed_updateCanvasSize fun _ => composed_useCanvas fun _ =>
      .bind (.ask .clearCanvas rfl (by decide)) fun _ => .give (.loadImageSrc _) rfl
  | removeBackground =>
    exact .bind (.ask .backgroundMask rfl (by decide)) fun _ =>
      .bind (.give (.loadMaskFromSrc _) rfl) fun _ => composed_wait _
  | canvasClear => exact .bind (.ask .clearCanvas rfl (by decide)) fun _ => composed_wait _
  | canvasSave _ =>
    exact .bind (composed_pathOf _) fun _ => .bind (.ask (.saveImage _ _) rfl (by decide)) fun _ => composed_wait _
  | canvasLoad _ =>
    exact .bind composed_updateCanvasSize fun _ => .bind (composed_pathOf _) fun _ =>
      .bind (.ask (.loadImage _) rfl (by decide)) fun _ => composed_wait _
  | moodboardClear => exact .bind (.ask .clearMoodboard rfl (by decide)) fun _ => composed_wait _
  | moodboardCanvas =>
    exact composed_useCanvas fun _ => .bind (.give (.addToMoodboard _) rfl) fun _ => composed_wait _
  | moodboardLoad =>
    exact composed_useCanvas fun _ => .bind (.give (.addToMoodboard _) rfl) fun _ => .ask .clearCanvas rfl (by decide)
  | moodboardAdd _ => exact .bind (composed_pathOf _) fun _ => composed_addFile setting rfl _
  | loopAddMoodboard directory =>
    simp only [perform, counter]
    exact .bind (composed_fileInTurn _ directory) fun _ => composed_addFile setting rfl _
  | moodboardRemove _ => exact .bind (.ask (.removeFromMoodboard _) rfl (by decide)) fun _ => composed_wait _
  | moodboardWeights _ => exact .forM fun _ => .ask (.setMoodboardWeight _ _) rfl (by decide)
  | maskClear => exact .setMask none rfl
  | maskLoad _ =>
    exact .bind (composed_pathOf _) fun _ => .bind (.give (.loadMaskFromSrc _) rfl) fun _ =>
      .bind (composed_wait _) fun _ => .setMask none rfl
  | maskGet =>
    refine .bind (.read _ fun _ _ _ _ => rfl) fun mask => ?_
    cases mask with
    | none => exact .pure ()
    | some mask => exact .give (.loadImageSrc _) rfl
  | maskBackground => exact .bind (.ask .backgroundMask rfl (by decide)) fun _ => .setMask _ rfl
  | maskForeground => exact .bind (.ask .foregroundMask rfl (by decide)) fun _ => .setMask _ rfl
  | maskBody _ => exact .bind (.ask (.bodyMask _ _) rfl (by decide)) fun _ => .setMask _ rfl
  | maskAsk query => exact .bind (composed_maskOfQuery _ query _ _) fun _ => .setMask _ rfl
  | depthExtract =>
    exact composed_useCanvas fun _ => .bind (.give (.extractDepthMap _) rfl) fun _ => composed_wait _
  | depthCanvas => exact composed_useCanvas fun _ => .give (.loadDepthMap _) rfl
  | depthToCanvas => exact .bind (.ask .saveDepthMapSrc rfl (by decide)) fun _ => .give (.loadImageSrc _) rfl
  | poseExtract =>
    exact composed_useCanvas fun _ => .bind (.give (.loadPoseFromSrc _) rfl) fun _ => composed_wait _
  | poseJson _ => exact .bind (.resolve _) fun _ => .ask (.loadPoseJson _) rfl (by decide)
  | poseClear => exact .ask .clearPose rfl (by decide)
  | loopLoad directory =>
    simp only [perform, counter]
    exact .bind (composed_fileInTurn _ directory) fun _ =>
      .bind (.ask (.loadImage _) rfl (by decide)) fun _ => composed_wait _
  | loopSave _ =>
    simp only [perform, number]
    exact .bind (composed_pathOf _) fun _ => .bind (.ask (.saveImage _ _) rfl (by decide)) fun _ => composed_wait _

/-- An instruction is composed of what it may do. -/
theorem composed_perform (setting : Setting) (spot : Spot) (instruction : Instruction) :
    Composed instruction spot.index spot.index (perform setting spot instruction) (perform setting spot instruction) :=
  composed_perform_alike setting rfl rfl instruction

section Preserved

variable {instruction : Instruction} {i j : Nat} {x y : StageAction α}

/-- A relation between the hosts of two stages. -/
def BetweenHosts (R : Host → Host → Prop) (before after : Stage) : Prop := R before.host after.host

instance {R : Host → Host → Prop} [IsPreorder Host R] : IsPreorder Stage (BetweenHosts R) where
  refl s := refl_of R s.host
  trans _ _ _ first second := trans_of R first second

theorem within_onHost {R : Host → Host → Prop} {x : HostAction α} (kept : x.Within R) :
    (onHost x).Within (BetweenHosts R) :=
  kept.onPart (fun (s : Stage) host (h : R s.host host) => h) _

/-- What every operation keeps that an instruction may ask for, the instruction keeps. -/
theorem Composed.within_host {R : Host → Host → Prop} [IsPreorder Host R] (composed : Composed instruction i j x y)
    (each : ∀ {β : Type} {name : String} {z : HostAction β}, Host.Operation name z →
      (Host.takesHandle name = true → instruction.handleUse? = some name) → z.Within R) :
    x.Within (BetweenHosts R) := by
  induction composed with
  | pure a => exact .pure a
  | fail e => exact .fail e
  | read f _ => exact .gets f
  | resolve z => exact .onPart_of_forall (fun s _ => refl_of R s.host) _ z
  | ask op free => exact within_onHost (each op fun takes => absurd (free.symm.trans takes) nofun)
  | give op own => exact within_onHost (each op fun _ => own)
  | setConfiguration | setNegativePrompt | setMask | countRender | recover =>
    exact .modify fun s => refl_of R s.host
  | bind _ _ first second => exact first.bind second
  | orElse _ _ _ first second => exact first.orElse second

/-- An instruction only ever adds to the log of the host. -/
theorem Composed.adds (composed : Composed instruction i j x y) :
    x.Within (BetweenHosts (Host.Adds fun _ => True)) :=
  composed.within_host fun op _ host => (op.within_adds host).mono fun _ _ => trivial

/-- The stage, its host and draws apart, changes as an instruction at an entry may change it. -/
structure Keeps (instruction : Instruction) (i : Nat) (before after : Stage) : Prop where
  recoveries : ∃ made, after.recoveries.toList = before.recoveries.toList ++ made ∧
    ∀ event ∈ made, event.index = i ∧ event.kind = instruction.kind ∧ instruction.recovery? = some event.recovery
  configuration : instruction.sets? ≠ some .configuration → after.configuration = before.configuration
  negativePrompt : instruction.sets? ≠ some .negativePrompt → after.negativePrompt = before.negativePrompt
  mask : instruction.sets? ≠ some .mask → after.mask = before.mask
  renders : instruction.handleUse? ≠ some "render" → after.renders = before.renders

/-- Host and draws are not part of what is kept. -/
theorem Keeps.of_same {before after : Stage} (recoveries : after.recoveries = before.recoveries)
    (configuration : after.configuration = before.configuration)
    (negativePrompt : after.negativePrompt = before.negativePrompt) (mask : after.mask = before.mask)
    (renders : after.renders = before.renders) : Keeps instruction i before after where
  recoveries := ⟨[], by simp [recoveries], List.forall_mem_nil _⟩
  configuration _ := configuration
  negativePrompt _ := negativePrompt
  mask _ := mask
  renders _ := renders

instance : IsPreorder Stage (Keeps instruction i) where
  refl _ := .of_same rfl rfl rfl rfl rfl
  trans before between after first second := by
    obtain ⟨made, here, all⟩ := first.recoveries
    obtain ⟨more, there, all'⟩ := second.recoveries
    refine ⟨⟨made ++ more, ?_, List.forall_mem_append.2 ⟨all, all'⟩⟩, fun other => ?_, fun other => ?_, fun other => ?_,
      fun other => ?_⟩
    · rw [there, here, List.append_assoc]
    · rw [second.configuration other, first.configuration other]
    · rw [second.negativePrompt other, first.negativePrompt other]
    · rw [second.mask other, first.mask other]
    · rw [second.renders other, first.renders other]

/-- An instruction changes of the stage only what its kind tells. -/
theorem Composed.within_keeps (composed : Composed instruction i j x y) : x.Within (Keeps instruction i) := by
  induction composed with
  | pure a => exact .pure a
  | fail e => exact .fail e
  | read f _ => exact .gets f
  | resolve | ask | give => exact .onPart_of_forall (fun _ _ => .of_same rfl rfl rfl rfl rfl) _ _
  | setConfiguration f own =>
    exact .modify fun s =>
      ⟨⟨[], by simp, List.forall_mem_nil _⟩, fun other => absurd own other, fun _ => rfl, fun _ => rfl, fun _ => rfl⟩
  | setNegativePrompt text own =>
    exact .modify fun s =>
      ⟨⟨[], by simp, List.forall_mem_nil _⟩, fun _ => rfl, fun other => absurd own other, fun _ => rfl, fun _ => rfl⟩
  | setMask mask own =>
    exact .modify fun s =>
      ⟨⟨[], by simp, List.forall_mem_nil _⟩, fun _ => rfl, fun _ => rfl, fun other => absurd own other, fun _ => rfl⟩
  | countRender own =>
    exact .modify fun s =>
      ⟨⟨[], by simp, List.forall_mem_nil _⟩, fun _ => rfl, fun _ => rfl, fun _ => rfl, fun other => absurd own other⟩
  | recover recovery reason own =>
    refine .modify fun s => ⟨⟨[_], Array.toList_push, ?_⟩, fun _ => rfl, fun _ => rfl, fun _ => rfl, fun _ => rfl⟩
    rintro _ (_ | ⟨_, ⟨⟩⟩)
    exact ⟨rfl, rfl, own⟩
  | bind _ _ first second => exact first.bind second
  | orElse _ _ _ first second => exact first.orElse second

/-- What an instruction does not set is as before, whether it succeeds or fails. -/
theorem keeps_of_perform {setting : Setting} {spot : Spot} {instruction : Instruction} {s t : Stage}
    {outcome : Except EngineError Unit} (run : (perform setting spot instruction).run s = (outcome, t)) :
    Keeps instruction spot.index s t :=
  (composed_perform setting spot instruction).within_keeps.of_run run

end Preserved

end Stage

end CanvasScript
