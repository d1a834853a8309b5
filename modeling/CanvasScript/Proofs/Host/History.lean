import CanvasScript.Proofs.Host.Handles

/-!
# The history of a host

All that can be seen of the view of a host is told by its log: the size of the canvas and the zoom are those of the
last calls that gave them. One operation records one call at most, and changes the view as that call tells
(`Operation.recorded`). So does whatever a host is asked for, one after the other (`recorded_askedAll`), and its log
tells the view from the start on (`log_tells_view`).
-/

namespace CanvasScript

namespace Call

/-- The size that a call gives the canvas: one without an inside is ignored. -/
def canvas? : Call → Option (Size Binary64)
  | updateCanvasSize size => if size.isEmpty then none else some size
  | _ => none

/-- The zoom that a call gives the view. -/
def zoom? : Call → Option Binary64
  | setCanvasZoom zoom => some zoom
  | _ => none

/-- What the last of some calls that tells it tells, or else what was before. -/
def lastTold (told? : Call → Option α) (before : α) (log : List Call) : α := (log.filterMap told?).getLast?.getD before

variable {told? : Call → Option α} {before : α}

@[simp] theorem lastTold_singleton (call : Call) : lastTold told? before [call] = (told? call).getD before := by
  cases told : told? call <;> simp [lastTold, told]

theorem lastTold_append (first second : List Call) :
    lastTold told? before (first ++ second) = lastTold told? (lastTold told? before first) second := by
  simp only [lastTold, List.filterMap_append, List.getLast?_append]
  cases (second.filterMap told?).getLast? <;> rfl

/-- What is told has a property that all that calls tell has, if what was before has it. -/
theorem lastTold_induction {P : α → Prop} (start : P before) {log : List Call}
    (each : ∀ call ∈ log, ∀ a, told? call = some a → P a) : P (lastTold told? before log) := by
  induction log generalizing before with
  | nil => exact start
  | cons call log ih =>
    obtain ⟨here, later⟩ := List.forall_mem_cons.1 each
    have split : lastTold told? before (call :: log) = lastTold told? ((told? call).getD before) log := by
      rw [← lastTold_singleton, ← lastTold_append, List.singleton_append]
    rw [split]
    apply ih _ later
    cases told : told? call with
    | none => exact start
    | some a => exact here a told

/-- A canvas is only given a size with an inside. -/
theorem isEmpty_of_canvas? {call : Call} {size : Size Binary64} (told : call.canvas? = some size) :
    size.isEmpty = false := by
  cases call with
  | updateCanvasSize given =>
    rw [canvas?] at told
    split at told
    · cases told
    · rename_i inside
      cases told
      exact Bool.eq_false_iff.2 inside
  | _ => cases told

end Call

namespace Host

open Call (lastTold canvas? zoom?)

/-- Between two hosts some calls are recorded and change the view as they tell. -/
structure Recorded (before : Host) (made : List Call) (after : Host) : Prop where
  calls : after.calls.toList = before.calls.toList ++ made
  canvas : after.canvas = lastTold canvas? before.canvas made
  zoom : after.zoom = lastTold zoom? before.zoom made
  setup : after.setup = before.setup

theorem Recorded.refl (host : Host) : Recorded host [] host := ⟨by simp, rfl, rfl, rfl⟩

theorem Recorded.trans {host middle after : Host} {first second : List Call} (here : Recorded host first middle)
    (there : Recorded middle second after) : Recorded host (first ++ second) after where
  calls := by rw [there.calls, here.calls, List.append_assoc]
  canvas := by rw [there.canvas, here.canvas, Call.lastTold_append]
  zoom := by rw [there.zoom, here.zoom, Call.lastTold_append]
  setup := there.setup.trans here.setup

section Step

variable {x : HostAction α} {f : α → HostAction β}

/-- An action records one call at most, and the view is what that tells. -/
def RecordsOne (x : HostAction α) : Prop := ∀ host, ∃ made, made.length ≤ 1 ∧ Recorded host made (x.run host).2

theorem RecordsOne.of_quiet (quiet : x.Within Eq) : RecordsOne x := by
  intro host
  rw [← quiet host]
  exact ⟨[], Nat.zero_le 1, .refl host⟩

/-- What changes nothing may follow. -/
theorem RecordsOne.bind (first : RecordsOne x) (quiet : ∀ a, (f a).Within Eq) : RecordsOne (x >>= f) := by
  intro host
  have here := first host
  rw [Attempt.run_bind]
  rcases ends : x.run host with ⟨e | a, after⟩
  · rw [ends] at here
    exact here
  · rw [ends] at here
    dsimp only
    rw [← quiet a after]
    exact here

theorem quiet_guard (operation : String) : (guard operation).Within Eq := by
  intro host
  by_cases fails : host.failing = some operation
  · rw [run_guard_of_failing fails]
  · rw [run_guard_of_working fails]

theorem recordsOne_query (operation : String) (f : Host → α) : RecordsOne (query operation f) :=
  .of_quiet ((quiet_guard operation).bind fun _ => .gets f)

/-- A call that does not tell of the view is recorded. -/
theorem recordsOne_record {call : Call} (size : call.canvas? = none) (zoom : call.zoom? = none) :
    RecordsOne (record call) := by
  intro host
  rcases run_record call host with ⟨e, failed⟩ | recorded
  · rw [failed]
    exact ⟨[], Nat.zero_le 1, .refl host⟩
  · rw [recorded]
    exact ⟨[call], Nat.le_refl 1, by simp, by simp [size], by simp [zoom], rfl⟩

theorem recordsOne_newMask {call : MaskHandle → Call} (size : ∀ mask, (call mask).canvas? = none)
    (zoom : ∀ mask, (call mask).zoom? = none) : RecordsOne (newMask call) := by
  intro host
  rcases run_newMask call host with ⟨e, failed⟩ | made
  · rw [failed]
    exact ⟨[], Nat.zero_le 1, by simp, rfl, rfl, rfl⟩
  · rw [made]
    exact ⟨[call (maskOf (host.handedOut + 1))], Nat.le_refl 1, by simp, by simp [size], by simp [zoom], rfl⟩

theorem recordsOne_newSrc (what : String) {call : String → Call} (named : ∀ src, (call src).name = (call "").name)
    (size : ∀ src, (call src).canvas? = none) (zoom : ∀ src, (call src).zoom? = none) :
    RecordsOne (newSrc what call) := by
  intro host
  rcases run_newSrc what named host with ⟨e, failed⟩ | made
  · rw [failed]
    exact ⟨[], Nat.zero_le 1, .refl host⟩
  · rw [made]
    exact ⟨[call (srcOf what (host.handedOut + 1))], Nat.le_refl 1, by simp, by simp [size], by simp [zoom], rfl⟩

/-- The canvas has the size that is recorded, unless that has no inside. -/
theorem recordsOne_updateCanvasSize (configuration : Configuration) : RecordsOne (updateCanvasSize configuration) := by
  intro host
  rw [updateCanvasSize]
  rcases run_record (.updateCanvasSize configuration.size) host with ⟨e, failed⟩ | recorded
  · rw [Attempt.run_bind_error failed]
    exact ⟨[], Nat.zero_le 1, .refl host⟩
  · rw [Attempt.run_bind_ok recorded, Attempt.run_modify]
    refine ⟨[.updateCanvasSize configuration.size], Nat.le_refl 1, ?_⟩
    by_cases empty : configuration.size.isEmpty = true
    · constructor <;> simp [empty, canvas?, zoom?, setup]
    · constructor <;> simp [empty, canvas?, zoom?, setup]

theorem recordsOne_setCanvasZoom (zoom : Binary64) : RecordsOne (setCanvasZoom zoom) := by
  intro host
  rw [setCanvasZoom]
  rcases run_record (.setCanvasZoom zoom) host with ⟨e, failed⟩ | recorded
  · rw [Attempt.run_bind_error failed]
    exact ⟨[], Nat.zero_le 1, .refl host⟩
  · rw [Attempt.run_bind_ok recorded, Attempt.run_modify]
    refine ⟨[.setCanvasZoom zoom], Nat.le_refl 1, ?_⟩
    constructor <;> simp [canvas?, zoom?, setup]

/-- An operation records one call at most and changes the view as that tells, whether it fails or not. -/
theorem Operation.recorded {name : String} (op : Operation name x) : RecordsOne x := by
  cases op with
  | configuration | negativePrompt | canvasSize | canvasZoom | bounds | modelsDownloaded _ =>
    exact recordsOne_query _ _
  | readEntries _ => exact .of_quiet ((quiet_guard _).bind fun _ => (Attempt.Within.gets _).bind fun _ => .ofExcept _)
  | updateCanvasSize configuration => exact recordsOne_updateCanvasSize configuration
  | setCanvasZoom zoom => exact recordsOne_setCanvasZoom zoom
  | detectFaces =>
    refine (recordsOne_record rfl rfl).bind fun _ => (Attempt.Within.gets _).bind fun faces => ?_
    cases faces with
    | ok faces => exact .pure faces
    | error message => exact .fail _
  | answer _ _ => exact (recordsOne_record rfl rfl).bind fun _ => .gets _
  | saveImageSrc => exact recordsOne_newSrc _ (fun _ => rfl) (fun _ => rfl) fun _ => rfl
  | saveDepthMapSrc => exact recordsOne_newSrc _ (fun _ => rfl) (fun _ => rfl) fun _ => rfl
  | backgroundMask | foregroundMask | bodyMask _ _ | createMask _ _ =>
    exact recordsOne_newMask (fun _ => rfl) fun _ => rfl
  | settle millis =>
    intro host
    rw [Host.settle, Attempt.run_modify]
    exact ⟨[.settle millis], Nat.le_refl 1, by simp, rfl, rfl, rfl⟩
  | _ => exact recordsOne_record rfl rfl

end Step

/-- What a host is asked for: an operation with what it is given. -/
structure Request where
  name : String
  Answer : Type
  action : HostAction Answer
  operation : Operation name action

/-- The host when it has been asked for something, whatever it answers. -/
def asked (host : Host) (request : Request) : Host := (request.action.run host).2

/-- The host when it has been asked for all of that, one after the other. -/
def askedAll (host : Host) (requests : List Request) : Host := requests.foldl asked host

/-- Whatever a host is asked for, it records one call at most for each, and the view is what the calls tell. -/
theorem recorded_askedAll (host : Host) (requests : List Request) :
    ∃ made, made.length ≤ requests.length ∧ Recorded host made (host.askedAll requests) := by
  induction requests generalizing host with
  | nil => exact ⟨[], Nat.le_refl 0, .refl host⟩
  | cons request requests ih =>
    obtain ⟨first, one, here⟩ := request.operation.recorded host
    obtain ⟨later, each, there⟩ := ih (host.asked request)
    refine ⟨first ++ later, ?_, here.trans there⟩
    simp only [List.length_append, List.length_cons]
    omega

/-- **The log of a host tells its view.** Whatever a new host is asked for and whatever it refuses: it tells the size
that the last call gave its canvas and the zoom that the last call gave the view, or what it was set up with if there
is no such call. Being asked once more only adds one call at most at the end of its log, it stays set up as it was,
and a canvas with an inside is not left without one. -/
theorem log_tells_view (host : Host) (silent : host.calls = #[]) (requests : List Request) :
    let after := host.askedAll requests
    let log := after.calls.toList
    let canvas := (log.filterMap canvas?).getLast?.getD host.canvas
    let zoom := (log.filterMap zoom?).getLast?.getD host.zoom
    after.canvas = canvas ∧ after.zoom = zoom ∧
      (host.failing ≠ some "canvas_size" → getCanvasSize.run after = (.ok canvas, after)) ∧
      (host.failing ≠ some "canvas_zoom" → getCanvasZoom.run after = (.ok zoom, after)) ∧
      log.length ≤ requests.length ∧
      (∀ request, ∃ made, made.length ≤ 1 ∧ (after.asked request).calls.toList = log ++ made) ∧
      after.setup = host.setup ∧
      (host.canvas.isEmpty = false → after.canvas.isEmpty = false) := by
  intro after log canvas zoom
  obtain ⟨made, each, recorded⟩ := host.recorded_askedAll requests
  have all : log = made := by
    have calls := recorded.calls
    rw [silent] at calls
    exact calls
  have sized : after.canvas = canvas := by rw [recorded.canvas, ← all]; rfl
  have zoomed : after.zoom = zoom := by rw [recorded.zoom, ← all]; rfl
  have same : after.setup = host.setup := recorded.setup
  have failing : after.failing = host.failing := by rw [← after.failing_setup, same, host.failing_setup]
  refine ⟨sized, zoomed, ?_, ?_, all ▸ each, ?_, same, ?_⟩
  · intro able
    rw [← sized]
    exact run_query_of_working (failing ▸ able) Host.canvas
  · intro able
    rw [← zoomed]
    exact run_query_of_working (failing ▸ able) Host.zoom
  · intro request
    obtain ⟨more, one, next⟩ := request.operation.recorded after
    exact ⟨more, one, next.calls⟩
  · intro inside
    rw [recorded.canvas]
    apply Call.lastTold_induction (P := fun size : Size Binary64 => size.isEmpty = false) inside
    intro call _ size told
    exact Call.isEmpty_of_canvas? told

/-- A host that refuses to move its canvas has been given a size with an inside, one without, and a zoom. -/
theorem log_tells_view_resized :
    let sized (width height : Nat) :=
      Configuration.empty.setSize { width := Binary64.ofNat width, height := Binary64.ofNat height }
    let host := (Host.ofPictures "/pics").refusing "move_canvas"
    let after := host.askedAll
      [⟨_, _, _, .updateCanvasSize (sized 640 512)⟩, ⟨_, _, _, .moveCanvas ⟨.zero, .zero⟩⟩,
        ⟨_, _, _, .setCanvasZoom (Binary64.ofNat 2)⟩, ⟨_, _, _, .updateCanvasSize (sized 0 512)⟩]
    host.calls = #[] ∧ after.calls.toList.length = 3 ∧
      after.canvas = { width := Binary64.ofNat 640, height := Binary64.ofNat 512 } ∧ after.zoom = Binary64.ofNat 2 ∧
      after.setup = host.setup ∧ after.canvas.isEmpty = false := by
  intro sized host after
  obtain ⟨canvas, zoom, -, -, -, -, setup, inside⟩ := log_tells_view host rfl
    [⟨_, _, _, .updateCanvasSize (sized 640 512)⟩, ⟨_, _, _, .moveCanvas ⟨.zero, .zero⟩⟩,
      ⟨_, _, _, .setCanvasZoom (Binary64.ofNat 2)⟩, ⟨_, _, _, .updateCanvasSize (sized 0 512)⟩]
  exact ⟨rfl, by decide +kernel, canvas.trans (by decide +kernel), zoom.trans (by decide +kernel), setup,
    inside (by decide +kernel)⟩

end Host

end CanvasScript
