import CanvasScript.Proofs.Host.Log

/-!
# Operations of a host

What a host can be asked to do, by the names under which an operation can be made to
fail (`Host.Operation`). An operation only ever records calls of its own name, and none
when it is made to fail (`Operation.within_adds`). Where its own name is refused it fails at once
(`Operation.run_of_failing`), and it does not notice that another one is
(`Operation.unnoticed`).
-/

namespace CanvasScript.Host

/-- An action is the operation with a name. -/
inductive Operation : String → {α : Type} → HostAction α → Prop where
  | configuration : Operation "configuration" getConfiguration
  | negativePrompt : Operation "negative_prompt" getNegativePrompt
  | canvasSize : Operation "canvas_size" getCanvasSize
  | canvasZoom : Operation "canvas_zoom" getCanvasZoom
  | bounds : Operation "bounding_box" getBounds
  | modelsDownloaded (models : List String) : Operation "models_downloaded" (modelsDownloaded models)
  | readEntries (directory : String) : Operation "read_entries" (readEntries directory)
  | render (request : RenderRequest) : Operation "render" (render request)
  | updateCanvasSize (configuration : Configuration) :
      Operation "update_canvas_size" (updateCanvasSize configuration)
  | clearCanvas : Operation "clear_canvas" clearCanvas
  | saveImage (path : String) (visibleOnly : Bool) : Operation "save_image" (saveImage path visibleOnly)
  | loadImage (path : String) : Operation "load_image" (loadImage path)
  | saveImageSrc : Operation "save_image_src" saveImageSrc
  | loadImageSrc (src : String) : Operation "load_image_src" (loadImageSrc src)
  | setCanvasZoom (zoom : Binary64) : Operation "set_canvas_zoom" (setCanvasZoom zoom)
  | moveCanvas (pan : Point Binary64) : Operation "move_canvas" (moveCanvas pan)
  | detectFaces : Operation "detect_faces" detectFaces
  | answer (model question : String) : Operation "answer" (answer model question)
  | backgroundMask : Operation "background_mask" backgroundMask
  | foregroundMask : Operation "foreground_mask" foregroundMask
  | bodyMask (parts : List BodyPart) (extra : Option Binary64) : Operation "body_mask" (bodyMask parts extra)
  | createMask (size : Size Binary64) (value : Binary64) : Operation "create_mask" (createMask size value)
  | fillMaskRectangle (mask : MaskHandle) (rect : Rect Binary64) (value : Binary64) :
      Operation "fill_mask_rectangle" (fillMaskRectangle mask rect value)
  | loadMaskFromSrc (src : String) : Operation "load_mask_from_src" (loadMaskFromSrc src)
  | clearMoodboard : Operation "clear_moodboard" clearMoodboard
  | addToMoodboard (sources : List String) : Operation "add_to_moodboard" (addToMoodboard sources)
  | removeFromMoodboard (slot : Nat) : Operation "remove_from_moodboard" (removeFromMoodboard slot)
  | setMoodboardWeight (slot : Nat) (weight : Binary64) :
      Operation "set_moodboard_weight" (setMoodboardWeight slot weight)
  | extractDepthMap (src : String) : Operation "extract_depth_map" (extractDepthMap src)
  | loadDepthMap (src : String) : Operation "load_depth_map" (loadDepthMap src)
  | saveDepthMapSrc : Operation "save_depth_map_src" saveDepthMapSrc
  | loadPoseFromSrc (src : String) : Operation "load_pose_from_src" (loadPoseFromSrc src)
  | loadPoseJson (pose : Json.Value) : Operation "load_pose_json" (loadPoseJson pose)
  | clearPose : Operation "clear_pose" clearPose
  /-- Waiting has a name in the log but cannot fail. -/
  | settle (millis : Nat) : Operation "settle" (settle millis)

/-- Operations that are given images or masks. -/
def takesHandle (name : String) : Bool :=
  ["render", "load_image_src", "fill_mask_rectangle", "load_mask_from_src", "add_to_moodboard", "extract_depth_map",
    "load_depth_map", "load_pose_from_src"].contains name

variable {name : String} {x : HostAction α}

section Log

/-- Calls of some names are added to the log, waits apart none of the operation that
fails, numbers are only handed out, and the host is set up as before. -/
structure Adds (named : String → Prop) (before after : Host) : Prop where
  setup : after.setup = before.setup
  numbers : before.handedOut ≤ after.handedOut
  calls : ∃ made, after.calls.toList = before.calls.toList ++ made ∧
    ∀ call ∈ made, named call.name ∧ (before.failing = some call.name → call.name = "settle")

variable {named : String → Prop}

/-- A host set up as before fails the same operation. -/
theorem Adds.failing {before after : Host} (adds : Adds named before after) : after.failing = before.failing := by
  rw [← after.failing_setup, adds.setup, before.failing_setup]

theorem Adds.of_same_log {before after : Host} (calls : after.calls = before.calls)
    (setup : after.setup = before.setup) (numbers : before.handedOut ≤ after.handedOut) : Adds named before after where
  setup
  numbers
  calls := ⟨[], by simp [calls], List.forall_mem_nil _⟩

theorem Adds.mono {more : String → Prop} {before after : Host} (adds : Adds named before after)
    (wider : ∀ name, named name → more name) : Adds more before after := by
  obtain ⟨made, log, all⟩ := adds.calls
  exact ⟨adds.setup, adds.numbers, made, log, fun call mem => ⟨wider _ (all call mem).1, (all call mem).2⟩⟩

instance : IsPreorder Host (Adds named) where
  refl _ := .of_same_log rfl rfl (Nat.le_refl _)
  trans before between after first second := by
    obtain ⟨made, here, all⟩ := first.calls
    obtain ⟨more, there, all'⟩ := second.calls
    rw [first.failing] at all'
    refine ⟨second.setup.trans first.setup, Nat.le_trans first.numbers second.numbers, made ++ more, ?_,
      List.forall_mem_append.2 ⟨all, all'⟩⟩
    rw [there, here, List.append_assoc]

theorem adds_guard (operation : String) : (guard operation).Within (Adds named) := by
  intro host
  by_cases fails : host.failing = some operation
  · rw [run_guard_of_failing fails]
    exact refl_of _ host
  · rw [run_guard_of_working fails]
    exact refl_of _ host

theorem adds_record (call : Call) (own : named call.name) : (record call).Within (Adds named) := by
  intro host
  by_cases fails : host.failing = some call.name
  · rw [record, Attempt.run_bind_error (run_guard_of_failing fails)]
    exact refl_of _ host
  · rw [record, Attempt.run_bind_ok (run_guard_of_working fails)]
    refine ⟨rfl, Nat.le_refl _, [call], by simp, ?_⟩
    rintro _ (_ | ⟨_, ⟨⟩⟩)
    exact ⟨own, fun failing => absurd failing fails⟩

theorem adds_own (call : Call) : (record call).Within (Adds (· = call.name)) := adds_record call rfl

theorem adds_query (operation : String) (f : Host → α) : (query operation f).Within (Adds named) :=
  (adds_guard operation).bind fun _ => .gets f

theorem adds_takeNumber : takeNumber.Within (Adds named) := fun _ => .of_same_log rfl rfl (Nat.le_succ _)

theorem adds_newMask (call : MaskHandle → Call) (own : ∀ mask, named (call mask).name) :
    (newMask call).Within (Adds named) :=
  adds_takeNumber.bind fun _ => (adds_record _ (own _)).bind fun _ => .pure _

theorem adds_newSrc (what : String) (call : String → Call) (own : ∀ src, named (call src).name) :
    (newSrc what call).Within (Adds named) :=
  (adds_guard _).bind fun _ => adds_takeNumber.bind fun _ => (adds_record _ (own _)).bind fun _ => .pure _

/-- An operation adds calls of its own name only. -/
theorem Operation.within_adds (op : Operation name x) : x.Within (Adds (· = name)) := by
  cases op with
  | configuration | negativePrompt | canvasSize | canvasZoom | bounds | modelsDownloaded _ =>
    exact adds_query _ _
  | readEntries _ => exact (adds_guard _).bind fun _ => (Attempt.Within.gets _).bind fun _ => .ofExcept _
  | updateCanvasSize _ =>
    refine (adds_own (.updateCanvasSize _)).bind fun _ => .modify fun host => ?_
    split
    · exact refl_of _ host
    · exact .of_same_log rfl rfl (Nat.le_refl _)
  | setCanvasZoom _ =>
    exact (adds_own (.setCanvasZoom _)).bind fun _ => .modify fun _ => .of_same_log rfl rfl (Nat.le_refl _)
  | detectFaces =>
    refine (adds_own .detectFaces).bind fun _ => (Attempt.Within.gets _).bind fun faces => ?_
    cases faces with
    | ok faces => exact .pure faces
    | error message => exact .fail _
  | answer _ _ => exact (adds_own (.answer _ _)).bind fun _ => .gets _
  | saveImageSrc => exact adds_newSrc _ .saveImageSrc fun _ => rfl
  | saveDepthMapSrc => exact adds_newSrc _ .saveDepthMapSrc fun _ => rfl
  | backgroundMask => exact adds_newMask .backgroundMask fun _ => rfl
  | foregroundMask => exact adds_newMask .foregroundMask fun _ => rfl
  | bodyMask _ _ => exact adds_newMask (.bodyMask _ _) fun _ => rfl
  | createMask _ _ => exact adds_newMask (.createMask _ _) fun _ => rfl
  | settle millis => exact .modify fun host => ⟨rfl, Nat.le_refl _, [.settle millis], by simp, by simp [Call.name]⟩
  | _ => exact adds_record _ rfl

end Log

section Outcomes

variable {host : Host}

theorem run_record_of_failing {call : Call} (fails : host.failing = some call.name) :
    (record call).run host = (.error (injected call.name), host) :=
  Attempt.run_bind_error (run_guard_of_failing fails) _

theorem run_record_of_working {call : Call} (works : host.failing ≠ some call.name) :
    (record call).run host = (.ok (), { host with calls := host.calls.push call }) :=
  Attempt.run_bind_ok (run_guard_of_working works) _

theorem run_query_of_failing {operation : String} (fails : host.failing = some operation) (f : Host → α) :
    (query operation f).run host = (.error (injected operation), host) :=
  Attempt.run_bind_error (run_guard_of_failing fails) _

theorem run_query_of_working {operation : String} (works : host.failing ≠ some operation) (f : Host → α) :
    (query operation f).run host = (.ok (f host), host) :=
  Attempt.run_bind_ok (run_guard_of_working works) _

/-- Operations that make a mask. -/
def makesMask (name : String) : Bool := ["background_mask", "foreground_mask", "body_mask", "create_mask"].contains name

/-- The host when it has refused an operation: a mask that is not made has taken a number. -/
def behindRefusal (host : Host) (name : String) : Host :=
  { host with handedOut := host.handedOut + (makesMask name).toNat }

/-- An operation that is made to fail does so at once; only a number may be lost. -/
theorem Operation.run_of_failing (op : Operation name x) (fails : host.failing = some name)
    (able : name ≠ "settle") : x.run host = (.error (injected name), host.behindRefusal name) := by
  have refused (f : Unit → HostAction α) : (guard name >>= f).run host = (.error (injected name), host) :=
    Attempt.run_bind_error (run_guard_of_failing fails) f
  have unrecorded {β : Type} {call : Call} (own : call.name = name) (f : Unit → HostAction β) :
      (record call >>= f).run host = (.error (injected name), host) := by
    subst own
    exact Attempt.run_bind_error (run_record_of_failing fails) f
  -- A mask is numbered before its call is refused.
  have unmade {call : MaskHandle → Call} (own : ∀ mask, (call mask).name = name) :
      (newMask call).run host = (.error (injected name), { host with handedOut := host.handedOut + 1 }) := by
    have lost : (record (call (maskOf (host.handedOut + 1)))).run { host with handedOut := host.handedOut + 1 } =
        (.error (injected name), { host with handedOut := host.handedOut + 1 }) := by
      rw [← own (maskOf (host.handedOut + 1))] at fails ⊢
      exact run_record_of_failing fails
    exact Attempt.run_bind_error lost _
  cases op with
  | settle _ => exact absurd rfl able
  | updateCanvasSize _ | setCanvasZoom _ | detectFaces | answer _ _ => exact unrecorded rfl _
  | backgroundMask | foregroundMask | bodyMask _ _ | createMask _ _ => exact unmade fun _ => rfl
  | _ => exact refused _

end Outcomes

/-- The host with other models, and failing another operation. -/
def altered (models : List String → List String) (failing : Option String → Option String) (host : Host) : Host :=
  { host with downloaded := models host.downloaded, failing := failing host.failing }

section Altered

variable {models : List String → List String} {failing : Option String → Option String} {works : Option String}

/-- An action comes out on an altered host as on one that fails a certain operation or none. -/
abbrev Overlooks (models : List String → List String) (failing : Option String → Option String)
    (works : Option String) (x : HostAction α) : Prop :=
  x.Commutes (fun host => host.failing = works) (altered models failing)

theorem overlooks_guard {operation : String} (same : failing works = some operation ↔ works = some operation) :
    Overlooks models failing works (guard operation) := by
  rintro host rfl
  by_cases fails : host.failing = some operation
  · have fails' : (host.altered models failing).failing = some operation := same.2 fails
    rw [run_guard_of_failing fails, run_guard_of_failing fails']
    exact ⟨rfl, rfl⟩
  · have works' : (host.altered models failing).failing ≠ some operation := fails ∘ same.1
    rw [run_guard_of_working fails, run_guard_of_working works']
    exact ⟨rfl, rfl⟩

theorem overlooks_record (call : Call) (same : failing works = some call.name ↔ works = some call.name) :
    Overlooks models failing works (record call) :=
  (overlooks_guard same).bind fun _ => .modify (fun _ => rfl) fun _ kept => kept

theorem overlooks_query {operation : String} {f : Host → α}
    (same : failing works = some operation ↔ works = some operation)
    (blind : ∀ host, f (host.altered models failing) = f host) : Overlooks models failing works (query operation f) :=
  (overlooks_guard same).bind fun _ => .gets blind

theorem overlooks_takeNumber : Overlooks models failing works takeNumber := fun _ kept => ⟨rfl, kept⟩

theorem overlooks_newMask (call : MaskHandle → Call)
    (same : ∀ mask, failing works = some (call mask).name ↔ works = some (call mask).name) :
    Overlooks models failing works (newMask call) :=
  overlooks_takeNumber.bind fun _ => (overlooks_record _ (same _)).bind fun _ => .pure _

theorem overlooks_newSrc (what : String) (call : String → Call)
    (same : ∀ src, failing works = some (call src).name ↔ works = some (call src).name) :
    Overlooks models failing works (newSrc what call) :=
  (overlooks_guard (same "")).bind fun _ => overlooks_takeNumber.bind fun _ =>
    (overlooks_record _ (same _)).bind fun _ => .pure _

/-- An operation does not notice that a host is altered, if it is not asked for the models and
is failed as before. Waiting is not failed. -/
theorem Operation.overlooks (op : Operation name x) (told : name = "models_downloaded" → models = id)
    (same : name ≠ "settle" → (failing works = some name ↔ works = some name)) :
    Overlooks models failing works x := by
  by_cases waits : name = "settle"
  · cases op with
    | settle _ => exact .modify (fun _ => rfl) fun _ kept => kept
    | _ => exact absurd waits (by decide)
  · have same := same waits
    cases op with
    | configuration | negativePrompt | canvasSize | canvasZoom | bounds => exact overlooks_query same fun _ => rfl
    | modelsDownloaded _ =>
      obtain rfl := told rfl
      exact overlooks_query same fun _ => rfl
    | readEntries _ =>
      exact (overlooks_guard same).bind fun _ => .bind (.gets fun _ => rfl) fun _ => .ofExcept _
    | updateCanvasSize _ =>
      refine (overlooks_record (.updateCanvasSize _) same).bind fun _ => .modify (fun host => ?_) fun host kept => ?_
      · split <;> rfl
      · split <;> exact kept
    | setCanvasZoom _ =>
      exact (overlooks_record (.setCanvasZoom _) same).bind fun _ => .modify (fun _ => rfl) fun _ kept => kept
    | detectFaces =>
      refine (overlooks_record .detectFaces same).bind fun _ => .bind (.gets fun _ => rfl) fun faces => ?_
      cases faces with
      | ok faces => exact .pure faces
      | error message => exact .fail _
    | answer _ _ => exact (overlooks_record (.answer _ _) same).bind fun _ => .gets fun _ => rfl
    | saveImageSrc => exact overlooks_newSrc _ .saveImageSrc fun _ => same
    | saveDepthMapSrc => exact overlooks_newSrc _ .saveDepthMapSrc fun _ => same
    | backgroundMask => exact overlooks_newMask .backgroundMask fun _ => same
    | foregroundMask => exact overlooks_newMask .foregroundMask fun _ => same
    | bodyMask _ _ => exact overlooks_newMask (.bodyMask _ _) fun _ => same
    | createMask _ _ => exact overlooks_newMask (.createMask _ _) fun _ => same
    | settle _ => exact absurd rfl waits
    | _ => exact overlooks_record _ same

end Altered

/-- The host with an operation that it refuses. -/
def refusing (host : Host) (operation : String) : Host := { host with failing := some operation }

theorem failing_refusing (host : Host) (operation : String) : (host.refusing operation).failing = some operation := rfl

/-- An action comes out on a host that refuses an operation as it does on the host that
fails none, and leaves it failing none. -/
def Unnoticed (refused : String) (x : HostAction α) : Prop :=
  ∀ host : Host, host.failing = none →
    x.run (host.refusing refused) = ((x.run host).1, (x.run host).2.refusing refused) ∧
      (x.run host).2.failing = none

/-- An operation does not notice that another one is refused. -/
theorem Operation.unnoticed (op : Operation name x) {refused : String} (other : name ≠ refused ∨ name = "settle") :
    Unnoticed refused x := by
  show Overlooks id (fun _ => some refused) none x
  refine op.overlooks (fun _ => rfl) fun able => ?_
  have differs : name ≠ refused := other.resolve_right able
  exact ⟨fun same => absurd (Option.some.inj same).symm differs, nofun⟩

end CanvasScript.Host
