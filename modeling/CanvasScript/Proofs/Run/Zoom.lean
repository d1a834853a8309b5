import CanvasScript.Proofs.Run.State
import CanvasScript.Proofs.Run.Stepwise

/-!
# Zooming as well as can be

The view is placed by two calls, which a host makes unless it refuses one of them
(`Stage.run_applyPlacement`, `Stage.refused_applyPlacement`). What a zooming leaves is `Stage.Zoomed`: the
view centred on a region that is low enough, or reset with a note. Looking for a face comes to that whatever
else the host fails, and asking a model does unless the host fails to answer or to tell its canvas
(`Stage.zooming_bestEffort`).
-/

namespace CanvasScript

namespace Placement

variable {region : Rect α} {region? : Option (Rect α)} {viewport canvas : Size α} {current : α} [Scalar α]

/-- The calls that place the view, in order. -/
def calls (placement : Placement Binary64) : List Call :=
  if placement.centered then [.moveCanvas placement.pan, .setCanvasZoom placement.zoom]
  else [.setCanvasZoom placement.zoom, .moveCanvas placement.pan]

theorem calls_of_centered {placement : Placement Binary64} (centered : placement.centered = true) :
    placement.calls = [.moveCanvas placement.pan, .setCanvasZoom placement.zoom] := if_pos centered

theorem calls_of_reset {placement : Placement Binary64} (reset : placement.centered ≠ true) :
    placement.calls = [.setCanvasZoom placement.zoom, .moveCanvas placement.pan] := if_neg reset

theorem centered_centerOn : (centerOn region viewport canvas current).centered = true := rfl

theorem centered_reset : (reset viewport).centered ≠ true := Bool.false_ne_true

theorem around_of_fits (low : fits region viewport = true) :
    around (some region) viewport canvas current = centerOn region viewport canvas current := if_pos low

theorem around_of_unfit (unfit : ∀ region, region? = some region → fits region viewport = false) :
    around region? viewport canvas current = reset viewport := by
  cases region? with
  | none => rfl
  | some region => exact if_neg (Bool.eq_false_iff.1 (unfit region rfl))

end Placement

/-- What is looked for when zooming: the operations without which that fails, the calls that are made for it,
and the region that is found. -/
structure Search where
  needs : List String
  asked : List Call
  region? : Option (Rect Binary64)

namespace Host

/-- The operations that place the view. -/
def placing : List String := ["set_canvas_zoom", "move_canvas"]

/-- The operations that tell where the view is. -/
def viewing : List String := ["canvas_size", "canvas_zoom"]

/-- Looking for faces is recorded unless it is refused. -/
def facesAsked (host : Host) : List Call := if host.failing = some "detect_faces" then [] else [.detectFaces]

/-- The first face, if the host tells the faces and where the view is. -/
def faceInSight? (host : Host) : Option (Rect Binary64) :=
  if host.failing ∈ ("detect_faces" :: viewing).map some then none else host.faces.toOption.bind List.head?

/-- Faces are looked for; what fails on the way is put right as long as the view can be placed. -/
def faceSearch (host : Host) : Search where
  needs := placing
  asked := host.facesAsked
  region? := host.faceInSight?

/-- A model is asked for a rectangle, and has to answer. -/
def answerSearch (host : Host) (model query : String) : Search where
  needs := "answer" :: viewing ++ placing
  asked := [.answer model (Stage.rectangleQuestion query)]
  region? := Rect.ofAnswer? host.answerText host.canvas

/-- The face in sight of a host that refuses none of what is asked for it is the first. -/
theorem faceInSight?_of_able {host : Host} (able : ∀ name ∈ "detect_faces" :: viewing, host.failing ≠ some name) :
    host.faceInSight? = host.faces.toOption.bind List.head? := by
  apply if_neg
  intro refuses
  obtain ⟨name, mem, refuses⟩ := List.mem_map.1 refuses
  exact able name mem refuses.symm

/-- No face is in sight of a host that refuses what is asked for it. -/
theorem faceInSight?_of_refusing {host : Host} {name : String} (asked : name ∈ "detect_faces" :: viewing)
    (refuses : host.failing = some name) : host.faceInSight? = none :=
  if_pos (List.mem_map.2 ⟨name, asked, refuses.symm⟩)

end Host

namespace Stage

variable {setting : Setting} {entry : Entry} {placement : Placement Binary64} {region? : Option (Rect Binary64)}
  {missing model query : String} {s t : Stage}

/-- The stage with the view at a zoom. -/
def zoomedTo (s : Stage) (zoom : Binary64) : Stage := { s with host := { s.host with zoom } }

/-- The stage with the view placed. -/
def viewed (s : Stage) (placement : Placement Binary64) : Stage := (s.logged placement.calls).zoomedTo placement.zoom

/-- The note that the view was reset at an entry. -/
def Entry.resetNote (entry : Entry) (reason : String) : RecoveryEvent where
  index := entry.index
  kind := entry.kind
  recovery := .resetZoom
  reason

theorem calls_viewed (s : Stage) (placement : Placement Binary64) :
    (s.viewed placement).host.calls.toList = s.host.calls.toList ++ placement.calls := calls_logged _

theorem recoveries_viewed (s : Stage) (placement : Placement Binary64) :
    (s.viewed placement).recoveries = s.recoveries := rfl

/-- What comes of zooming to a region behind some calls. It is centred on if it is low enough, and else the
view is reset and that is noted. Nothing else is other than before. -/
structure Zoomed (entry : Entry) (asked : List Call) (region? : Option (Rect Binary64)) (s t : Stage) : Prop where
  centered : ∀ region, region? = some region → Placement.fits region s.configuration.size = true →
    ∃ placement, placement = Placement.centerOn region s.configuration.size s.host.canvas s.host.zoom ∧
      t.host.calls.toList =
        s.host.calls.toList ++ asked ++ [.moveCanvas placement.pan, .setCanvasZoom placement.zoom] ∧
      t.recoveries = s.recoveries
  reset : (∀ region, region? = some region → Placement.fits region s.configuration.size = false) →
    t.host.calls.toList = s.host.calls.toList ++ asked ++
        [.setCanvasZoom (Scalar.decimal 12 1),
          .moveCanvas
            { x := s.configuration.size.width * Scalar.decimal 6 2
              y := s.configuration.size.height * Scalar.decimal 6 2 }] ∧
      ∃ reason, t.recoveries.toList = s.recoveries.toList ++
        [{ index := entry.index, kind := entry.kind, recovery := .resetZoom, reason }]
  rest : t = { s with host := { s.host with calls := t.host.calls, zoom := t.host.zoom }, recoveries := t.recoveries }

namespace Zoomed

theorem of_centerOn {region : Rect Binary64} (low : Placement.fits region s.configuration.size = true) :
    Zoomed entry [] (some region) s
      (s.viewed (Placement.centerOn region s.configuration.size s.host.canvas s.host.zoom)) := by
  constructor
  case centered =>
    rintro _ ⟨⟩ -
    refine ⟨_, rfl, ?_, recoveries_viewed _ _⟩
    rw [calls_viewed, Placement.calls_of_centered Placement.centered_centerOn, List.append_nil]
  case reset =>
    intro unfit
    cases low.symm.trans (unfit region rfl)
  case rest => rfl

theorem of_reset (unfit : ∀ region, region? = some region → Placement.fits region s.configuration.size = false)
    (reason : String) :
    Zoomed entry [] region? s ((s.noted (entry.resetNote reason)).viewed (Placement.reset s.configuration.size)) := by
  constructor
  case centered =>
    intro region given low
    cases low.symm.trans (unfit region given)
  case reset =>
    intro _
    constructor
    · rw [calls_viewed, Placement.calls_of_reset Placement.centered_reset, List.append_nil]
      rfl
    · exact ⟨reason, Array.toList_push⟩
  case rest => rfl

/-- The calls before the zooming are those made first. -/
theorem behind {asked : List Call} (zoomed : Zoomed entry [] region? (s.logged asked) t) :
    Zoomed entry asked region? s t := by
  have log : (s.logged asked).host.calls.toList ++ [] = s.host.calls.toList ++ asked := by
    rw [List.append_nil, calls_logged]
  constructor
  case centered =>
    intro region given low
    rw [← log]
    exact zoomed.centered region given low
  case reset =>
    intro unfit
    rw [← log]
    exact zoomed.reset unfit
  case rest => exact zoomed.rest

/-- What the next render will have is as before, and so is the loop. -/
theorem state {asked : List Call} (zoomed : Zoomed entry asked region? s t) (frame : Option LoopFrame) :
    t.state frame = s.state frame := by
  rw [zoomed.rest]
  rfl

end Zoomed

section Success

theorem run_viewport :
    (Attempt.gets fun s => s.configuration.size : StageAction _).run s = (.ok s.configuration.size, s) := rfl

theorem run_setCanvasZoom (zoom : Binary64) (works : s.host.failing ≠ some "set_canvas_zoom") :
    (onHost (Host.setCanvasZoom zoom)).run s =
      (.ok (), (s.logged [.setCanvasZoom zoom]).zoomedTo zoom) := by
  have recorded : (Host.record (.setCanvasZoom zoom)).run s.host = _ := Host.run_record_of_working works
  rw [run_onHost, Host.setCanvasZoom, Attempt.run_bind_ok recorded, Array.push_eq_append]
  rfl

/-- The view is placed on a host that refuses no operation for it. -/
theorem run_applyPlacement (able : ∀ name ∈ Host.placing, s.host.failing ≠ some name) :
    (applyPlacement placement).run s = (.ok (), s.viewed placement) := by
  have zooms : s.host.failing ≠ some "set_canvas_zoom" := able _ (by decide)
  have moves : s.host.failing ≠ some "move_canvas" := able _ (by decide)
  unfold applyPlacement
  split
  next centered =>
    have moved : (onHost (Host.moveCanvas placement.pan)).run s = (.ok (), s.logged [.moveCanvas placement.pan]) :=
      run_record moves
    have still : (s.logged [.moveCanvas placement.pan]).host.failing ≠ some "set_canvas_zoom" := zooms
    rw [Attempt.run_bind_ok moved, run_setCanvasZoom _ still, logged_logged, viewed,
      Placement.calls_of_centered centered]
    rfl
  next reset =>
    have zoomed := run_setCanvasZoom placement.zoom zooms
    have moved : (onHost (Host.moveCanvas placement.pan)).run
          ((s.logged [.setCanvasZoom placement.zoom]).zoomedTo placement.zoom) =
        (.ok (), ((s.logged [.setCanvasZoom placement.zoom]).logged [.moveCanvas placement.pan]).zoomedTo
          placement.zoom) := run_record moves
    rw [Attempt.run_bind_ok zoomed, moved, logged_logged, viewed, Placement.calls_of_reset reset]
    rfl

/-- The view is reset, and that is noted. -/
theorem run_resetZoom (able : ∀ name ∈ Host.placing, s.host.failing ≠ some name) (reason : String) :
    (resetZoom entry reason).run s =
      (.ok (), (s.noted (entry.resetNote reason)).viewed (Placement.reset s.configuration.size)) := by
  have able' : ∀ name ∈ Host.placing, (s.noted (entry.resetNote reason)).host.failing ≠ some name := able
  have placed : (applyPlacement (Placement.reset s.configuration.size)).run (s.noted (entry.resetNote reason)) = _ :=
    run_applyPlacement able'
  exact placed

/-- A host that tells where the view is and places it zooms to a region as well as can be. -/
theorem run_zoomTo (entry : Entry) (region? : Option (Rect Binary64)) (missing : String)
    (tells : ∀ name ∈ Host.viewing, s.host.failing ≠ some name)
    (able : ∀ name ∈ Host.placing, s.host.failing ≠ some name) :
    ∃ t, (zoomTo entry region? missing).run s = (.ok (), t) ∧ Zoomed entry [] region? s t := by
  have sized : (onHost Host.getCanvasSize).run s = (.ok s.host.canvas, s) := run_query (tells _ (by decide)) _
  have zoom : (onHost Host.getCanvasZoom).run s = (.ok s.host.zoom, s) := run_query (tells _ (by decide)) _
  rw [zoomTo, Attempt.run_bind_ok run_viewport, Attempt.run_bind_ok sized, Attempt.run_bind_ok zoom]
  by_cases low : ∃ region, region? = some region ∧ Placement.fits region s.configuration.size = true
  · obtain ⟨region, rfl, low⟩ := low
    refine ⟨_, ?_, .of_centerOn low⟩
    dsimp only
    rw [Placement.around_of_fits low, if_pos Placement.centered_centerOn]
    exact run_applyPlacement able
  · have unfit : ∀ region, region? = some region → Placement.fits region s.configuration.size = false := by
      intro region given
      exact Bool.eq_false_iff.2 fun fits => low ⟨region, given, fits⟩
    refine ⟨_, ?_, .of_reset unfit (if region?.isNone then missing else "region too tall to zoom to")⟩
    dsimp only
    rw [Placement.around_of_unfit unfit, if_neg Placement.centered_reset]
    exact run_resetZoom able _

end Success

section Refusal

variable {refused : String}

/-- The view is not placed where one of the two operations for it is refused. -/
theorem refused_applyPlacement (placing : refused ∈ Host.placing) : Refused refused (applyPlacement placement) := by
  have moves : refused = "move_canvas" → Refused refused (onHost (Host.moveCanvas placement.pan)) := by
    rintro rfl
    exact refused_onHost (.moveCanvas _) (by decide)
  have zooms : refused = "set_canvas_zoom" → Refused refused (onHost (Host.setCanvasZoom placement.zoom)) := by
    rintro rfl
    exact refused_onHost (.setCanvasZoom _) (by decide)
  obtain zoom | move : refused = "set_canvas_zoom" ∨ refused = "move_canvas" := by simpa [Host.placing] using placing
  · unfold applyPlacement
    split
    · exact .after (adds_onHost (.moveCanvas _)) fun _ => zooms zoom
    · exact .bind (zooms zoom) _
  · unfold applyPlacement
    split
    · exact .bind (moves move) _
    · exact .after (adds_onHost (.setCanvasZoom _)) fun _ => moves move

theorem refused_resetZoom (placing : refused ∈ Host.placing) (reason : String) :
    Refused refused (resetZoom entry reason) :=
  .after (.modify fun s => refl_of _ s.host) fun _ => .after (.gets _) fun _ => refused_applyPlacement placing

theorem refused_zoomTo (needed : refused ∈ Host.viewing ++ Host.placing) :
    Refused refused (zoomTo entry region? missing) := by
  refine .after (.gets _) fun viewport => ?_
  obtain ⟨rfl | rfl⟩ | placing : (refused = "canvas_size" ∨ refused = "canvas_zoom") ∨ refused ∈ Host.placing := by
    simpa [Host.viewing, or_assoc] using needed
  · exact .bind (refused_onHost .canvasSize (by decide)) _
  · exact .after (adds_onHost .canvasSize) fun _ => .bind (refused_onHost .canvasZoom (by decide)) _
  · refine .after (adds_onHost .canvasSize) fun canvas => .after (adds_onHost .canvasZoom) fun current => ?_
    dsimp only
    split
    · exact refused_applyPlacement placing
    · exact refused_resetZoom placing _

end Refusal

section BestEffort

variable {p : Position} {instruction : Instruction}

/-- An instruction zooms to what a search finds: it succeeds just where the host refuses nothing that the
search needs, and then the run goes on with the same state and loop. -/
structure ZoomsTo (search : Search) (setting : Setting) (p : Position) (instruction : Instruction) (s : Stage) :
    Prop where
  succeeds_iff : (∃ t, (perform setting (p.spot instruction) instruction).run s = (.ok (), t)) ↔
    ∀ name ∈ search.needs, s.host.failing ≠ some name
  zoomed : ∀ t, (perform setting (p.spot instruction) instruction).run s = (.ok (), t) →
    Zoomed { index := p.pointer, kind := instruction.kind } search.asked search.region? s t
  state : ∀ t, (perform setting (p.spot instruction) instruction).run s = (.ok (), t) →
    ∃ q, p.after? instruction = some q ∧ t.state q.frame = s.state p.frame

/-- An instruction zooms to what a search finds if it does where the host allows it, and fails elsewhere. -/
theorem ZoomsTo.of_run {search : Search} (next : p.after? instruction = some p.next)
    (zooms : (∀ name ∈ search.needs, s.host.failing ≠ some name) →
      ∃ t, (perform setting (p.spot instruction) instruction).run s = (.ok (), t) ∧
        Zoomed { index := p.pointer, kind := instruction.kind } search.asked search.region? s t)
    (refused : ∀ name ∈ search.needs, Refused name (perform setting (p.spot instruction) instruction)) :
    ZoomsTo search setting p instruction s := by
  have able {t : Stage} (done : (perform setting (p.spot instruction) instruction).run s = (.ok (), t)) :
      ∀ name ∈ search.needs, s.host.failing ≠ some name := fun name mem => (refused name mem).not_ok done
  have zoomed {t : Stage} (done : (perform setting (p.spot instruction) instruction).run s = (.ok (), t)) :
      Zoomed { index := p.pointer, kind := instruction.kind } search.asked search.region? s t := by
    obtain ⟨u, here, zoomed⟩ := zooms (able done)
    cases here.symm.trans done
    exact zoomed
  constructor
  case succeeds_iff =>
    constructor
    · rintro ⟨t, done⟩
      exact able done
    · intro able
      obtain ⟨t, done, -⟩ := zooms able
      exact ⟨t, done⟩
  case zoomed => exact fun t done => zoomed done
  case state => exact fun t done => ⟨p.next, next, (zoomed done).state p.frame⟩

/-- The view is reset where no region is found. -/
theorem zoomed_resetZoom {asked : List Call} (able : ∀ name ∈ Host.placing, s.host.failing ≠ some name)
    (reason : String) :
    ∃ t, (resetZoom entry reason).run (s.logged asked) = (.ok (), t) ∧ Zoomed entry asked none s t := by
  have able' : ∀ name ∈ Host.placing, (s.logged asked).host.failing ≠ some name := able
  have unfit : ∀ region, none = some region → Placement.fits region (s.logged asked).configuration.size = false :=
    fun _ found => absurd found.symm (Option.some_ne_none _)
  exact ⟨_, run_resetZoom able' reason, .behind (.of_reset unfit reason)⟩

/-- Nothing is zoomed to on a host that does not tell where the view is. -/
theorem run_zoomTo_refused (entry : Entry) (region? : Option (Rect Binary64)) (missing : String) {name : String}
    (viewing : name ∈ Host.viewing) (refuses : s.host.failing = some name) :
    ∃ e, (zoomTo entry region? missing).run s = (.error e, s) := by
  obtain rfl | rfl : name = "canvas_size" ∨ name = "canvas_zoom" := by simpa [Host.viewing] using viewing
  · have unsized : (onHost Host.getCanvasSize).run s = (.error (.host (Host.injected "canvas_size")), s) :=
      run_query_refused refuses _
    rw [zoomTo, Attempt.run_bind_ok run_viewport, Attempt.run_bind_error unsized]
    exact ⟨_, rfl⟩
  · have works : s.host.failing ≠ some "canvas_size" := by simp [refuses]
    have sized : (onHost Host.getCanvasSize).run s = (.ok s.host.canvas, s) := run_query works _
    have unzoomed : (onHost Host.getCanvasZoom).run s = (.error (.host (Host.injected "canvas_zoom")), s) :=
      run_query_refused refuses _
    rw [zoomTo, Attempt.run_bind_ok run_viewport, Attempt.run_bind_ok sized, Attempt.run_bind_error unzoomed]
    exact ⟨_, rfl⟩

/-- Looking for faces is refused or fails and there is none in sight, or the host tells them. -/
theorem run_detectFaces (s : Stage) :
    (∃ e, (onHost Host.detectFaces).run s = (.error e, s.logged s.host.facesAsked) ∧ s.host.faceInSight? = none) ∨
      ∃ faces, (onHost Host.detectFaces).run s = (.ok faces, s.logged s.host.facesAsked) ∧
        s.host.failing ≠ some "detect_faces" ∧ s.host.faces = .ok faces := by
  by_cases refuses : s.host.failing = some "detect_faces"
  · left
    refine ⟨.host (Host.injected "detect_faces"), ?_, Host.faceInSight?_of_refusing (by simp) refuses⟩
    have refused : (Host.record .detectFaces).run s.host = _ := Host.run_record_of_failing refuses
    rw [Host.facesAsked, if_pos refuses, logged_nil, run_onHost, Host.detectFaces, Attempt.run_bind_error refused]
    rfl
  · have recorded : (Host.record .detectFaces).run s.host = _ := Host.run_record_of_working refuses
    have asked : (Attempt.gets Host.faces : HostAction _).run { s.host with calls := s.host.calls.push .detectFaces } =
        (.ok s.host.faces, _) := rfl
    rw [Host.facesAsked, if_neg refuses, run_onHost, Host.detectFaces, Attempt.run_bind_ok recorded,
      Attempt.run_bind_ok asked, Array.push_eq_append]
    cases told : s.host.faces with
    | error message =>
      left
      refine ⟨.host (.operation "detect_faces" message), rfl, ?_⟩
      rw [Host.faceInSight?, told]
      exact ite_self none
    | ok faces =>
      right
      exact ⟨faces, rfl, refuses, rfl⟩

theorem zoomed_faceZoom (able : ∀ name ∈ Host.placing, s.host.failing ≠ some name) :
    ∃ t, (faceZoom entry).run s = (.ok (), t) ∧ Zoomed entry s.host.facesAsked s.host.faceInSight? s t := by
  rcases run_detectFaces s with ⟨e, failed, unseen⟩ | ⟨faces, found, works, told⟩
  · rw [unseen, faceZoom, Attempt.run_orElse, Attempt.run_bind_error failed]
    exact zoomed_resetZoom able e.message
  · rw [faceZoom, Attempt.run_orElse, Attempt.run_bind_ok found]
    by_cases tells : ∀ name ∈ Host.viewing, s.host.failing ≠ some name
    · have seen : s.host.faceInSight? = faces.head? := by
        rw [Host.faceInSight?_of_able (List.forall_mem_cons.2 ⟨works, tells⟩), told]
        rfl
      obtain ⟨t, done, zoomed⟩ :=
        run_zoomTo (s := s.logged s.host.facesAsked) entry faces.head? "no face detected" tells able
      rw [seen, done]
      exact ⟨t, rfl, zoomed.behind⟩
    · push Not at tells
      obtain ⟨name, viewing, refuses⟩ := tells
      obtain ⟨e, failed⟩ :=
        run_zoomTo_refused (s := s.logged s.host.facesAsked) entry faces.head? "no face detected" viewing refuses
      rw [Host.faceInSight?_of_refusing (List.mem_cons_of_mem _ viewing) refuses, failed]
      exact zoomed_resetZoom able e.message

theorem refused_faceZoom {refused : String} (placing : refused ∈ Host.placing) : Refused refused (faceZoom entry) := by
  have attempt (faces : List (Rect Binary64)) : Refused refused (zoomTo entry faces.head? "no face detected") :=
    refused_zoomTo (List.mem_append_right _ placing)
  exact Attempt.Ensures.orElse (Refused.after (adds_onHost .detectFaces) attempt) fun _ => refused_resetZoom placing _

theorem zoomed_askZoom (able : ∀ name ∈ (s.host.answerSearch model query).needs, s.host.failing ≠ some name) :
    ∃ t, (askZoom entry model query).run s = (.ok (), t) ∧
      Zoomed entry [.answer model (rectangleQuestion query)] (Rect.ofAnswer? s.host.answerText s.host.canvas) s t := by
  obtain ⟨asking, placing⟩ := List.forall_mem_append.1 able
  obtain ⟨answers, tells⟩ := List.forall_mem_cons.1 asking
  rw [askZoom, Attempt.run_bind_ok (run_queryRect answers (tells _ (by decide)))]
  obtain ⟨t, done, zoomed⟩ := run_zoomTo (s := s.logged [.answer model (rectangleQuestion query)]) entry
    (Rect.ofAnswer? s.host.answerText s.host.canvas) "no rectangle in answer" tells placing
  exact ⟨t, done, zoomed.behind⟩

theorem refused_askZoom {refused : String} {host : Host} (needed : refused ∈ (host.answerSearch model query).needs) :
    Refused refused (askZoom entry model query) := by
  obtain rfl | later := List.mem_cons.1 needed
  · exact .bind (.bind (refused_onHost (.answer _ _) (by decide)) _) _
  · have asks : (queryRect model query).Within (BetweenHosts (Host.Adds fun _ => True)) :=
      (adds_onHost (.answer _ _)).bind fun _ => (adds_onHost .canvasSize).bind fun _ => .pure _
    exact .after asks fun _ => refused_zoomTo later

/-- **Best-effort zooming.** Looking for a face succeeds unless the host refuses to place the view, and asking a
model for a rectangle unless it refuses that, to answer or to tell where the view is. Whatever region is found,
the view is centred on it if it is low enough and else reset with a note, by two calls; nothing else changes. -/
theorem zooming_bestEffort (setting : Setting) (p : Position) (s : Stage) :
    ZoomsTo s.host.faceSearch setting p .faceZoom s ∧
      ∀ query, ZoomsTo (s.host.answerSearch setting.settings.askModel query) setting p (.askZoom query) s := by
  constructor
  · exact .of_run rfl zoomed_faceZoom fun _ placing => refused_faceZoom placing
  · intro query
    exact .of_run rfl zoomed_askZoom fun _ needed => refused_askZoom needed

end BestEffort

end Stage

end CanvasScript
