import CanvasScript.Proofs.Host.Log
import CanvasScript.Run.Perform

/-!
# What instructions touch

An instruction touches files by one call at most, and which one can be told from where
it stands and from what the host was set up with (`Instruction.touch?`). It makes that
call if it succeeds, and no other that touches a file (`Stage.touches_perform`).
-/

namespace CanvasScript

/-- The file of a directory whose turn it is, if the directory can be listed and has files. -/
def Host.fileInTurn? (host : Host) (directory : String) (counter : Int) : Option DirEntry :=
  match host.filesOf directory with
  | .ok entries => entryInTurn? entries counter
  | .error _ => none

/-- The call by which an instruction touches a file. -/
def Instruction.touch? (spot : Spot) (host : Host) : Instruction → Option Call
  | .canvasSave path => some (.saveImage (FilePath.join host.pictures path) false)
  | .loopSave path =>
    some (.saveImage (FilePath.join host.pictures (FilePath.numbered path spot.number)) false)
  | .canvasLoad path => some (.loadImage (FilePath.join host.pictures path))
  | .moodboardAdd path => some (.addToMoodboard [FilePath.url (FilePath.join host.pictures path)])
  | .maskLoad path => some (.loadMaskFromSrc (FilePath.url (FilePath.join host.pictures path)))
  | .loopLoad directory => (host.fileInTurn? directory spot.counter).map fun entry => .loadImage entry.path
  | .loopAddMoodboard directory =>
    (host.fileInTurn? directory spot.counter).map fun entry => .addToMoodboard [FilePath.url entry.path]
  | _ => none

/-- The file or directory that an instruction names. -/
def Instruction.path? : Instruction → Option String
  | .canvasSave path | .loopSave path | .canvasLoad path | .moodboardAdd path | .maskLoad path | .loopLoad path
  | .loopAddMoodboard path => some path
  | _ => none

/-- What an instruction touches depends on what the host was set up with. -/
theorem Instruction.touch?_setup (spot : Spot) (host : Host) (instruction : Instruction) :
    instruction.touch? spot host.setup = instruction.touch? spot host := by
  cases instruction <;> rfl

namespace Stage

/-- No file is touched between two stages and nothing is rendered. -/
structure Spares (before after : Stage) : Prop where
  host : Host.Spares before.host after.host
  renders : after.renders = before.renders

instance : IsPreorder Stage Spares where
  refl s := ⟨refl_of _ s.host, rfl⟩
  trans _ _ _ first second := ⟨trans_of _ first.host second.host, second.renders.trans first.renders⟩

section Parts

variable {x : HostAction α}

theorem spares_onHost (h : x.Within Host.Spares) :
    (onHost x).Within Spares :=
  .onPart h (fun _ _ spares => ⟨spares, rfl⟩) _

theorem spares_record {call : Call} (h : call.touchesFile = false) : (onHost (Host.record call)).Within Spares :=
  spares_onHost (Host.within_record h)

theorem spares_onDraws (x : Shortcut.Resolving α) : (onDraws x).Within Spares :=
  .onPart_of_forall (fun s _ => ⟨refl_of _ s.host, rfl⟩) _ x

/-- What does not change the host and the number of renders spares files. -/
theorem spares_modify {g : Stage → Stage} (host : ∀ s, (g s).host = s.host)
    (renders : ∀ s, (g s).renders = s.renders) : (Attempt.modify g : StageAction Unit).Within Spares := by
  refine .modify fun s => ⟨?_, renders s⟩
  rw [host s]
  exact refl_of _ s.host

theorem spares_setConfiguration (f : Configuration → Configuration) : (setConfiguration f).Within Spares :=
  spares_modify (fun _ => rfl) fun _ => rfl

theorem spares_setNegativePrompt (text : String) : (setNegativePrompt text).Within Spares :=
  spares_modify (fun _ => rfl) fun _ => rfl

theorem spares_setMask (mask : Option MaskHandle) : (setMask mask).Within Spares :=
  spares_modify (fun _ => rfl) fun _ => rfl

theorem spares_recover (event : RecoveryEvent) : (recover event).Within Spares :=
  spares_modify (fun _ => rfl) fun _ => rfl

theorem spares_wait (millis : Nat) : (onHost (Host.settle millis)).Within Spares :=
  spares_onHost (Host.within_settle millis)

theorem spares_query (operation : String) (f : Host → α) : (onHost (Host.query operation f)).Within Spares :=
  spares_onHost (Host.within_query operation f)

theorem spares_setCanvasZoom (zoom : Binary64) : (onHost (Host.setCanvasZoom zoom)).Within Spares :=
  spares_onHost ((Host.within_record rfl).bind fun _ => .modify fun _ => .of_same_log rfl rfl)

theorem spares_updateCanvasSize : updateCanvasSize.Within Spares := by
  refine (Attempt.Within.gets _).bind fun configuration => spares_onHost ?_
  refine (Host.within_record rfl).bind fun _ => .modify fun h => ?_
  split
  · exact refl_of _ h
  · exact .of_same_log rfl rfl

theorem spares_detectFaces : (onHost Host.detectFaces).Within Spares := by
  refine spares_onHost ((Host.within_record rfl).bind fun _ => (Attempt.Within.gets _).bind fun faces => ?_)
  cases faces with
  | ok faces => exact .pure faces
  | error message => exact .fail _

theorem spares_answer (model question : String) : (onHost (Host.answer model question)).Within Spares :=
  spares_onHost ((Host.within_record rfl).bind fun _ => .gets _)

theorem spares_newMask {call : MaskHandle → Call} (h : ∀ mask, (call mask).touchesFile = false) :
    (onHost (Host.newMask call)).Within Spares :=
  spares_onHost (Host.within_newMask h)

theorem spares_newSrc {call : String → Call} (h : ∀ src, (call src).touchesFile = false) (what : String) :
    (onHost (Host.newSrc what call)).Within Spares :=
  spares_onHost (Host.within_newSrc h what)

theorem spares_applyPlacement (placement : Placement Binary64) : (applyPlacement placement).Within Spares := by
  unfold applyPlacement
  split
  · exact (spares_record rfl).bind fun _ => spares_setCanvasZoom _
  · exact (spares_setCanvasZoom _).bind fun _ => spares_record rfl

theorem spares_resetZoom (entry : Entry) (reason : String) : (resetZoom entry reason).Within Spares :=
  (spares_recover _).bind fun _ => (Attempt.Within.gets _).bind fun _ => spares_applyPlacement _

theorem spares_zoomTo (entry : Entry) (region? : Option (Rect Binary64)) (missing : String) :
    (zoomTo entry region? missing).Within Spares := by
  refine (Attempt.Within.gets _).bind fun viewport => (spares_query _ _).bind fun canvas =>
    (spares_query _ _).bind fun current => ?_
  dsimp only
  split
  · exact spares_applyPlacement _
  · exact spares_resetZoom entry _

theorem spares_faceZoom (entry : Entry) : (faceZoom entry).Within Spares :=
  (spares_detectFaces.bind fun _ => spares_zoomTo entry _ _).orElse fun _ => spares_resetZoom entry _

theorem spares_queryRect (model query : String) : (queryRect model query).Within Spares :=
  (spares_answer _ _).bind fun _ => (spares_query _ _).bind fun _ => .pure _

theorem spares_askZoom (entry : Entry) (model query : String) : (askZoom entry model query).Within Spares :=
  (spares_queryRect _ _).bind fun _ => spares_zoomTo entry _ _

theorem spares_maskOfQuery (entry : Entry) (model query : String) :
    (maskOfQuery entry model query).Within Spares := by
  refine (spares_queryRect _ _).bind fun rect? => (spares_query _ _).bind fun canvas =>
    (spares_newMask fun _ => rfl).bind fun mask => ?_
  cases rect? with
  | none => exact (spares_recover _).bind fun _ => .pure _
  | some rect => exact (spares_record rfl).bind fun _ => .pure _

theorem spares_adaptSize (setting : Setting) (limits : SizeLimits) : (adaptSize setting limits).Within Spares := by
  refine (spares_wait _).bind fun _ => (spares_query _ _).bind fun bounds => ?_
  split
  · exact .fail _
  · exact (spares_setConfiguration _).bind fun _ => spares_updateCanvasSize.bind fun _ =>
      (spares_setCanvasZoom _).bind fun _ => spares_record rfl

theorem spares_addToMoodboard {src : String} (plain : FilePath.isUrl src = false) :
    (onHost (Host.addToMoodboard [src])).Within Spares := by
  have untouched : (Call.addToMoodboard [src]).touchesFile = false := by simp [Call.touchesFile, plain]
  exact spares_record untouched

theorem spares_crop : crop.Within Spares :=
  spares_updateCanvasSize.bind fun _ => (spares_newSrc (fun _ => rfl) _).bind fun _ =>
    (spares_record rfl).bind fun _ => spares_record rfl

theorem spares_configure (setting : Setting) (patch : Json.Fields) : (configure setting patch).Within Spares :=
  (spares_onDraws _).bind fun _ => spares_setConfiguration _

theorem spares_resolvePrompt (setting : Setting) (text : String) : (resolvePrompt setting text).Within Spares :=
  spares_onDraws _

/-- The image on the canvas is not a file, wherever it goes. -/
theorem spares_useCanvas {f : String → StageAction α} (use : ∀ src, FilePath.isUrl src = false → (f src).Within Spares) :
    (onHost Host.saveImageSrc >>= f).Within Spares :=
  (spares_newSrc (fun _ => rfl) _).bind_of_gives ((Host.gives_newSrc _ _).onPart _ _ _) use

/-- The background mask is not a file, wherever it goes. -/
theorem spares_useBackground {f : MaskHandle → StageAction α}
    (use : ∀ mask : MaskHandle, FilePath.isUrl mask.src = false → (f mask).Within Spares) :
    (onHost Host.backgroundMask >>= f).Within Spares :=
  (spares_newMask fun _ => rfl).bind_of_gives ((Host.gives_newMask _).onPart _ _ _) use

end Parts

/-- What an instruction does to the log, which ends with an outcome: of the calls that
touch files it makes the one told, which only a failure can make it miss. -/
structure Effect (touch? : Option Call) (rendered : Nat) (before : Stage) (outcome : Except EngineError Unit)
    (after : Stage) : Prop where
  calls : ∃ made missed : List Call, after.host.calls.toList = before.host.calls.toList ++ made ∧
    made.filter Call.touchesFile ++ missed = touch?.toList ∧ (outcome.isOk = true → missed = [])
  setup : after.host.setup = before.host.setup
  renders : outcome = .ok () → after.renders = before.renders + rendered

/-- An action touches the file told of the host, from every stage. -/
def Touches (touch? : Host → Option Call) (rendered : Nat) (x : StageAction Unit) : Prop :=
  ∀ s, Effect (touch? s.host) rendered s (x.run s).1 (x.run s).2

namespace Touches

variable {touch? : Host → Option Call} {rendered : Nat} {x : StageAction α}

theorem filter_of_spared {made : List Call} (spared : ∀ call ∈ made, call.touchesFile = false) :
    made.filter Call.touchesFile = [] :=
  List.filter_eq_nil_iff.2 fun call mem => by simp [spared call mem]

theorem of_spares {x : StageAction Unit} (h : x.Within Spares) : Touches (fun _ => none) 0 x := by
  intro s
  obtain ⟨⟨made, log, spared⟩, setup⟩ := (h s).host
  exact ⟨⟨made, [], log, by rw [filter_of_spared spared]; rfl, fun _ => rfl⟩, setup, fun _ => (h s).renders⟩

theorem record {call : Call} (h : call.touchesFile = true) :
    Touches (fun _ => some call) 0 (onHost (Host.record call)) := by
  intro s
  rw [onHost, Attempt.run_onPart]
  rcases Host.run_record call s.host with ⟨e, failed⟩ | recorded
  · rw [failed]
    exact ⟨⟨[], [call], by simp, rfl, nofun⟩, rfl, nofun⟩
  · rw [recorded]
    exact ⟨⟨[call], [], by simp, by simp [h], fun _ => rfl⟩, rfl, fun _ => rfl⟩

/-- What spares files may follow. -/
theorem followed {x y : StageAction Unit} (first : Touches touch? rendered x) (second : y.Within Spares) :
    Touches touch? rendered (x >>= fun _ => y) := by
  intro s
  have here := first s
  rw [Attempt.run_bind]
  rcases ends : x.run s with ⟨e | _, t⟩
  · rw [ends] at here
    exact ⟨here.calls, here.setup, nofun⟩
  · rw [ends] at here
    obtain ⟨made, missed, log, touched, whole⟩ := here.calls
    obtain ⟨⟨more, log', spared⟩, setup⟩ := (second t).host
    refine ⟨⟨made ++ more, missed, ?_, ?_, fun _ => whole rfl⟩, setup.trans here.setup, fun _ => ?_⟩
    · dsimp only
      rw [log', log, List.append_assoc]
    · rw [List.filter_append, filter_of_spared spared, List.append_nil]
      exact touched
    · exact (second t).renders.trans (here.renders rfl)

/-- What spares files may come before, as it keeps what the host was set up with. -/
theorem behind {f : α → StageAction Unit} (first : x.Within Spares) (kept : ∀ host, touch? host.setup = touch? host)
    (second : ∀ a, Touches touch? rendered (f a)) : Touches touch? rendered (x >>= f) := by
  intro s
  have here := first s
  rw [Attempt.run_bind]
  rcases ends : x.run s with ⟨e | a, t⟩
  · rw [ends] at here
    obtain ⟨made, log, spared⟩ := here.host.calls
    exact ⟨⟨made, _, log, by rw [filter_of_spared spared, List.nil_append], nofun⟩, here.host.setup, nofun⟩
  · rw [ends] at here
    obtain ⟨made, log, spared⟩ := here.host.calls
    have same : touch? t.host = touch? s.host := by
      rw [← kept t.host, here.host.setup, kept]
    obtain ⟨⟨more, missed, log', touched, whole⟩, setup, renders⟩ := second a t
    refine ⟨⟨made ++ more, missed, ?_, ?_, whole⟩, setup.trans here.host.setup, fun ok => ?_⟩
    · rw [log', log, List.append_assoc]
    · rw [List.filter_append, filter_of_spared spared, List.nil_append, ← same]
      exact touched
    · rw [renders ok, here.renders]

/-- A path is taken under the pictures of the host. -/
theorem path {f : String → StageAction Unit} (call : String → Call) (path : String)
    (use : ∀ p, Touches (fun _ => some (call p)) 0 (f p)) :
    Touches (fun host => some (call (FilePath.join host.pictures path))) 0 (pathOf path >>= f) :=
  fun s => use (FilePath.join s.host.pictures path) s

end Touches

/-- Looking for the file whose turn it is changes nothing, and gives it if it succeeds. -/
theorem run_fileInTurn (counter : Int) (directory : String) (s : Stage) :
    (∃ e, (fileInTurn counter directory).run s = (.error e, s)) ∨
      ∃ entry, s.host.fileInTurn? directory counter = some entry ∧
        (fileInTurn counter directory).run s = (.ok entry, s) := by
  rw [fileInTurn, Attempt.run_bind, onHost, Attempt.run_onPart]
  rcases Host.run_readEntries directory s.host with ⟨e, failed⟩ | listed
  · rw [failed]
    exact .inl ⟨_, rfl⟩
  · rw [listed, Host.fileInTurn?]
    cases files : s.host.filesOf directory with
    | error e => exact .inl ⟨_, rfl⟩
    | ok entries =>
      cases chosen : entryInTurn? entries counter with
      | none => exact .inl ⟨.emptyDirectory directory, by simp [chosen]⟩
      | some entry => exact .inr ⟨entry, chosen, by simp [chosen]⟩

/-- The file whose turn it is is used, if there is one. -/
theorem Touches.file {f : DirEntry → StageAction Unit} (call : DirEntry → Call) (counter : Int) (directory : String)
    (use : ∀ entry, Touches (fun _ => some (call entry)) 0 (f entry)) :
    Touches (fun host => (host.fileInTurn? directory counter).map call) 0
      (fileInTurn counter directory >>= f) := by
  intro s
  rcases run_fileInTurn counter directory s with ⟨e, run⟩ | ⟨entry, turn, run⟩
  · rw [Attempt.run_bind_error run]
    exact ⟨⟨[], _, by simp, rfl, nofun⟩, rfl, nofun⟩
  · have here := use entry s
    rw [Attempt.run_bind_ok run]
    simpa only [turn, Option.map_some] using here

/-- A render that succeeds is counted. -/
theorem touches_render (setting : Setting) (text : String) :
    Touches (fun _ => none) 1 (render setting text) := by
  have count : Touches (fun _ => none) 1 (.modify fun s => { s with renders := s.renders + 1 }) :=
    fun s => ⟨⟨[], [], by simp, rfl, fun _ => rfl⟩, rfl, fun _ => rfl⟩
  refine .behind (spares_resolvePrompt setting text) (fun _ => rfl) fun prompt => ?_
  refine .behind spares_updateCanvasSize (fun _ => rfl) fun _ => ?_
  refine .behind (.gets _) (fun _ => rfl) fun request => ?_
  exact .behind (spares_record rfl) (fun _ => rfl) fun _ => count

/-- Files are added to the moodboard by their address. -/
theorem touches_addFile (setting : Setting) (path : String) :
    Touches (fun _ => some (.addToMoodboard [FilePath.url path])) 0 (addFile setting path) := by
  have touches : (Call.addToMoodboard [FilePath.url path]).touchesFile = true := by
    simp [Call.touchesFile, FilePath.isUrl_url]
  exact (Touches.record touches).followed (spares_wait _)

/-- An instruction touches what its text and place tell, and a prompt renders once. -/
theorem touches_perform (setting : Setting) (spot : Spot) (instruction : Instruction) :
    Touches (instruction.touch? spot) (if instruction.kind = .prompt then 1 else 0)
      (perform setting spot instruction) := by
  cases instruction with
  | prompt text => exact touches_render setting text
  | canvasSave path => exact .path (.saveImage · false) path fun p => (Touches.record rfl).followed (spares_wait _)
  | loopSave path => exact .path (.saveImage · false) _ fun p => (Touches.record rfl).followed (spares_wait _)
  | canvasLoad path =>
    refine .behind spares_updateCanvasSize (fun _ => rfl) fun _ => ?_
    exact .path .loadImage path fun p => (Touches.record rfl).followed (spares_wait _)
  | moodboardAdd path =>
    exact .path (fun p => .addToMoodboard [FilePath.url p]) path fun p => touches_addFile setting p
  | maskLoad path =>
    refine .path (fun p => .loadMaskFromSrc (FilePath.url p)) path fun p => ?_
    have touches : (Call.loadMaskFromSrc (FilePath.url p)).touchesFile = true := FilePath.isUrl_url p
    exact (Touches.record touches).followed ((spares_wait _).bind fun _ => spares_setMask none)
  | loopLoad directory =>
    exact .file (fun entry => .loadImage entry.path) _ directory fun entry =>
      (Touches.record rfl).followed (spares_wait _)
  | loopAddMoodboard directory =>
    exact .file (fun entry => .addToMoodboard [FilePath.url entry.path]) _ directory fun entry =>
      touches_addFile setting entry.path
  | note | loop _ | loopEnd | finish => exact .of_spares (.pure _)
  | negativePrompt text =>
    exact .of_spares ((spares_resolvePrompt setting text).bind fun _ => spares_setNegativePrompt _)
  | config patch | inpaintTools patch => exact .of_spares (spares_configure setting patch)
  | frames count | latentSizes tiers => exact .of_spares (spares_setConfiguration _)
  | faceZoom => exact .of_spares (spares_faceZoom _)
  | askZoom query => exact .of_spares (spares_askZoom _ _ _)
  | moveScale target => exact .of_spares ((spares_record rfl).bind fun _ => spares_setCanvasZoom _)
  | adaptSize limits => exact .of_spares ((spares_adaptSize setting limits).bind fun _ => spares_wait _)
  | crop => exact .of_spares spares_crop
  | removeBackground =>
    refine .of_spares (spares_useBackground fun mask plain => ?_)
    have untouched : (Call.loadMaskFromSrc mask.src).touchesFile = false := plain
    exact (spares_record untouched).bind fun _ => spares_wait _
  | canvasClear | moodboardClear | moodboardRemove slot =>
    exact .of_spares ((spares_record rfl).bind fun _ => spares_wait _)
  | moodboardCanvas =>
    exact .of_spares (spares_useCanvas fun src plain => (spares_addToMoodboard plain).bind fun _ => spares_wait _)
  | moodboardLoad =>
    exact .of_spares (spares_useCanvas fun src plain => (spares_addToMoodboard plain).bind fun _ => spares_record rfl)
  | moodboardWeights weights => exact .of_spares (.forM fun _ _ => spares_record rfl)
  | maskClear => exact .of_spares (spares_setMask none)
  | maskGet =>
    refine .of_spares ((Attempt.Within.gets _).bind fun mask => ?_)
    cases mask with
    | none => exact .pure _
    | some mask => exact spares_record rfl
  | maskBackground | maskForeground | maskBody _ =>
    exact .of_spares ((spares_newMask fun _ => rfl).bind fun mask => spares_setMask _)
  | maskAsk query => exact .of_spares ((spares_maskOfQuery _ _ _).bind fun mask => spares_setMask _)
  | depthExtract | poseExtract =>
    exact .of_spares (spares_useCanvas fun _ _ => (spares_record rfl).bind fun _ => spares_wait _)
  | depthCanvas => exact .of_spares (spares_useCanvas fun _ _ => spares_record rfl)
  | depthToCanvas => exact .of_spares ((spares_newSrc (fun _ => rfl) _).bind fun _ => spares_record rfl)
  | poseJson pose => exact .of_spares ((spares_onDraws _).bind fun _ => spares_record rfl)
  | poseClear => exact .of_spares (spares_record rfl)

/-- An instruction that succeeds touches a file just if it names one. -/
theorem touch?_isSome_of_ok {setting : Setting} {spot : Spot} {instruction : Instruction} {s t : Stage}
    (done : (perform setting spot instruction).run s = (.ok (), t)) :
    (instruction.touch? spot s.host).isSome = instruction.path?.isSome := by
  have turn : ∀ {f : DirEntry → StageAction Unit} {directory : String},
      (fileInTurn spot.counter directory >>= f).run s = (.ok (), t) →
        (s.host.fileInTurn? directory spot.counter).isSome = true := by
    intro f directory ends
    obtain ⟨entry, u, found, -⟩ := Attempt.run_bind_eq_ok_iff.1 ends
    rcases run_fileInTurn spot.counter directory s with ⟨e, failed⟩ | ⟨other, present, -⟩
    · rw [failed] at found
      cases found
    · rw [present]
      rfl
  cases instruction with
  | loopLoad directory =>
    rw [Instruction.touch?, Option.isSome_map, turn done]
    rfl
  | loopAddMoodboard directory =>
    have added : ((fileInTurn spot.counter directory) >>= fun entry => addFile setting entry.path).run s = (.ok (), t) :=
      done
    rw [Instruction.touch?, Option.isSome_map, turn added]
    rfl
  | _ => rfl

end Stage

end CanvasScript
