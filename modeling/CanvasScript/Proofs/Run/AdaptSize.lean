import CanvasScript.Proofs.Configuration.Size
import CanvasScript.Proofs.Json.Canonical
import CanvasScript.Proofs.Run.OnHost
import CanvasScript.Proofs.Run.State
import CanvasScript.Proofs.Validation.Grammar

/-!
# Adapting the size

The limits of an adapting are finite numbers from its payload (`SizeLimits.exists_of_accepts`). The
configuration gets the lesser of the limits and the content of the canvas, and the canvas gets the size
that the configuration is left with, unless that has no inside (`Stage.canvas_of_adaptSize`). An adapting
to a content with an inside fails only where the host does (`Stage.adaptSize_succeeds`). What holds of the
sizes after it is `Adapted`, and `Stage.adaptSize_bounded` says when it comes to that.
-/

namespace CanvasScript

open Json (Value Fields FieldType FieldValue RecordType)

section Limits

variable {v : Value} {fields : Fields} {limits : SizeLimits}

/-- A number that JSON has is finite. -/
theorem Json.Value.Proper.isFinite_number (proper : v.Proper) {x : Binary64} (number : v.number? = some x) :
    x.isFinite = true := by
  cases proper with
  | int least most =>
    cases number
    refine Binary64.isFinite_ofInt ?_
    unfold Binary64.int64Bound at least
    unfold UInt64.size at most
    omega
  | float finite =>
    cases number
    exact finite
  | _ => cases number

/-- The number in a field of a record. -/
theorem Json.RecordType.readField_number {name : String} {held : FieldValue}
    (read : RecordType.readField fields name .number = .ok held) :
    ∃ x, held = .number x ∧ (fields.get? name).bind Value.number? = some x := by
  unfold RecordType.readField at read
  cases found : Fields.get? name fields with
  | none =>
    rw [found] at read
    cases read
  | some w =>
    rw [found] at read
    cases w with
    | int n | float x =>
      cases read
      exact ⟨_, rfl, rfl⟩
    | _ => cases read

/-- The limits are the numbers in the two fields of a payload. -/
structure SizeLimits.StandIn (limits : SizeLimits) (fields : Fields) : Prop where
  width : (fields.get? "maxWidth").bind Value.number? = some limits.width
  height : (fields.get? "maxHeight").bind Value.number? = some limits.height

theorem SizeLimits.standIn_of_read (read : Payload.sizeLimits (.object fields) = .ok limits) :
    limits.StandIn fields := by
  unfold Payload.sizeLimits Payload.record at read
  split at read
  next held whole =>
    obtain ⟨_, -, given⟩ := Outcome.bind_eq_ok_iff.1 whole
    simp only [Payload.sizeLimitsType, List.mapM_cons, List.mapM_nil] at given
    obtain ⟨_, first, later⟩ := Outcome.bind_eq_ok_iff.1 given
    obtain ⟨_, last, all⟩ := Outcome.bind_eq_ok_iff.1 later
    obtain ⟨_, second, both⟩ := Outcome.bind_eq_ok_iff.1 last
    obtain ⟨width, rfl, wide⟩ := RecordType.readField_number first
    obtain ⟨height, rfl, high⟩ := RecordType.readField_number second
    cases both
    cases all
    cases read
    exact ⟨wide, high⟩
  next => cases read

/-- A payload that the rules accept has limits. -/
theorem SizeLimits.exists_of_accepts (accepts : Kind.adaptSize.Accepts v) :
    ∃ fields limits, v = .object fields ∧ Instruction.decode .adaptSize v = .ok (.adaptSize limits) ∧
      limits.StandIn fields := by
  obtain ⟨fields, rfl, -⟩ := (Kind.accepts_iff_admits .adaptSize v).1 accepts
  obtain ⟨instruction, decoded⟩ := accepts.usable
  cases read : Payload.sizeLimits (.object fields) with
  | error cause =>
    rw [Instruction.decode, read] at decoded
    cases decoded
  | ok limits =>
    refine ⟨fields, limits, rfl, ?_, standIn_of_read read⟩
    rw [Instruction.decode, read]
    rfl

/-- The limits in a payload that JSON has are finite. -/
theorem SizeLimits.StandIn.isFinite (standIn : limits.StandIn fields) (proper : (Value.object fields).Proper) :
    limits.width.isFinite = true ∧ limits.height.isFinite = true := by
  cases proper with
  | object _ each =>
    have finite {name : String} {x : Binary64} (number : (fields.get? name).bind Value.number? = some x) :
        x.isFinite = true := by
      obtain ⟨w, found, told⟩ := Option.bind_eq_some_iff.1 number
      exact (each _ (Fields.mem_of_get? found)).isFinite_number told
    exact ⟨finite standIn.width, finite standIn.height⟩

end Limits

section Canvas

namespace Host

/-- The canvas is as large as before. -/
def SameCanvas (before after : Host) : Prop := after.canvas = before.canvas

instance : IsPreorder Host SameCanvas where
  refl _ := rfl
  trans _ _ _ first second := second.trans first

theorem sameCanvas_record (call : Call) : (record call).Within SameCanvas := by
  intro host
  rcases run_record call host with ⟨e, failed⟩ | recorded
  · rw [failed]
    rfl
  · rw [recorded]
    rfl

theorem sameCanvas_setCanvasZoom (zoom : Binary64) : (setCanvasZoom zoom).Within SameCanvas :=
  (sameCanvas_record _).bind fun _ => .modify fun _ => rfl

theorem sameCanvas_settle (millis : Nat) : (settle millis).Within SameCanvas := .modify fun _ => rfl

/-- The canvas is given the size of a configuration, unless that has no inside. -/
theorem canvas_of_updateCanvasSize {configuration : Configuration} {host after : Host}
    (done : (updateCanvasSize configuration).run host = (.ok (), after)) :
    after.canvas = if configuration.size.isEmpty then host.canvas else configuration.size := by
  obtain ⟨_, recorded, called, resized⟩ := Attempt.run_bind_eq_ok_iff.1 done
  cases resized
  rw [← (sameCanvas_record _).of_run called]
  split <;> rfl

end Host

namespace Stage

variable {setting : Setting} {spot : Spot} {limits : SizeLimits} {s t : Stage}

/-- The canvas is given the size that the configuration is given. -/
theorem canvas_of_adaptSize (done : (perform setting spot (.adaptSize limits)).run s = (.ok (), t)) :
    t.host.canvas = if t.configuration.size.isEmpty then s.host.canvas else t.configuration.size := by
  obtain ⟨_, u, adapted, waited⟩ := Attempt.run_bind_eq_ok_iff.1 done
  obtain ⟨_, v, settled, adapting⟩ := Attempt.run_bind_eq_ok_iff.1 adapted
  obtain ⟨bounds, w, asked, sized⟩ := Attempt.run_bind_eq_ok_iff.1 adapting
  obtain ⟨-, rfl⟩ := query_of_onHost asked
  split at sized
  · cases sized
  · obtain ⟨_, x, set, later⟩ := Attempt.run_bind_eq_ok_iff.1 sized
    obtain ⟨_, y, updated, viewing⟩ := Attempt.run_bind_eq_ok_iff.1 later
    obtain ⟨_, z, read, resized⟩ := Attempt.run_bind_eq_ok_iff.1 updated
    cases set
    cases read
    obtain ⟨resized, same⟩ := host_of_onHost resized
    have before : w.host.canvas = s.host.canvas := (within_onHost (Host.sameCanvas_settle _)).of_run settled
    have after : t.host.canvas = y.host.canvas := calc t.host.canvas
      _ = u.host.canvas := (within_onHost (Host.sameCanvas_settle _)).of_run waited
      _ = y.host.canvas := ((within_onHost (Host.sameCanvas_setCanvasZoom _)).bind fun _ =>
        within_onHost (Host.sameCanvas_record _)).of_run viewing
    have configured : t.configuration = y.configuration := calc t.configuration
      _ = u.configuration := configuration_of_note waited (composed_wait _)
      _ = y.configuration := configuration_of_note viewing (.bind (.ask (.setCanvasZoom _) rfl (by decide)) fun _ =>
        .ask (.moveCanvas _) rfl (by decide))
    rw [after, configured, Host.canvas_of_updateCanvasSize resized, same, ← before]

/-- The stage when the bounds of the content are asked for. -/
def awaitingBounds (setting : Setting) (s : Stage) : Stage :=
  { s with host := { s.host with calls := s.host.calls.push (.settle setting.settings.boundsSettleDelay) } }

theorem run_settle_awaitingBounds :
    (onHost (Host.settle setting.settings.boundsSettleDelay)).run s = (.ok (), s.awaitingBounds setting) := rfl

/-- The bounds of the content, unless the host fails to tell them. -/
theorem run_getBounds (able : s.host.failing ≠ some "bounding_box") :
    (onHost Host.getBounds).run s = (.ok s.host.contentBounds, s) := run_query able _

/-- A content without an inside is not adapted to, and nothing but the log is other than before. -/
theorem run_adaptSize_of_empty (empty : s.host.contentBounds.size.isEmpty = true) :
    (perform setting spot (.adaptSize limits)).run s =
      (.error (if s.host.failing = some "bounding_box" then .host (Host.injected "bounding_box") else .emptyBounds),
        s.awaitingBounds setting) := by
  refine Attempt.run_bind_error ((Attempt.run_bind_ok run_settle_awaitingBounds _).trans ?_) _
  by_cases refused : s.host.failing = some "bounding_box"
  · have refuses : (s.awaitingBounds setting).host.failing = some "bounding_box" := refused
    have asked : (onHost Host.getBounds).run (s.awaitingBounds setting) =
        (.error (.host (Host.injected "bounding_box")), s.awaitingBounds setting) := run_query_refused refuses _
    rw [Attempt.run_bind_error asked, if_pos refused]
  · have answers : (s.awaitingBounds setting).host.failing ≠ some "bounding_box" := refused
    rw [Attempt.run_bind_ok (run_getBounds answers), if_neg refused]
    exact congrArg (fun x => Attempt.run x (s.awaitingBounds setting)) (if_pos empty)

end Stage

end Canvas

section Success

variable {refused : Option String}

namespace Host

/-- On a host that fails a certain operation or none an action succeeds, and leaves it so. -/
abbrev Succeeds (refused : Option String) (x : HostAction α) : Prop :=
  x.Ensures (fun host => host.failing = refused) (fun _ host => host.failing = refused) fun _ => False

theorem succeeds_record (call : Call) (able : refused ≠ some call.name) : Succeeds refused (record call) := by
  rintro host rfl
  rw [run_record_of_working able]

theorem succeeds_modify {g : Host → Host} (kept : ∀ host, (g host).failing = host.failing) :
    Succeeds refused (.modify g : HostAction Unit) := fun host same => (kept host).trans same

theorem succeeds_updateCanvasSize (configuration : Configuration) (able : refused ≠ some "update_canvas_size") :
    Succeeds refused (updateCanvasSize configuration) := by
  refine Attempt.Ensures.bind (succeeds_record _ able) fun _ => succeeds_modify fun host => ?_
  split <;> rfl

theorem succeeds_setCanvasZoom (zoom : Binary64) (able : refused ≠ some "set_canvas_zoom") :
    Succeeds refused (setCanvasZoom zoom) :=
  Attempt.Ensures.bind (succeeds_record _ able) fun _ => succeeds_modify fun _ => rfl

end Host

namespace Stage

variable {setting : Setting} {spot : Spot} {limits : SizeLimits} {s t : Stage}

/-- The same of the host of a stage. -/
abbrev Succeeds (refused : Option String) (x : StageAction α) : Prop :=
  x.Ensures (fun s => s.host.failing = refused) (fun _ s => s.host.failing = refused) fun _ => False

theorem succeeds_onHost {x : HostAction α} (succeeds : Host.Succeeds refused x) : Succeeds refused (onHost x) := by
  intro s same
  have here := succeeds s.host same
  rw [run_onHost]
  rcases ends : x.run s.host with ⟨_ | a, host⟩ <;> rw [ends] at here <;> exact here

/-- Operations that an adapting asks for. -/
def adapting : List String := ["bounding_box", "update_canvas_size", "set_canvas_zoom", "move_canvas"]

/-- A content with an inside is adapted to if the host fails no operation that this takes. -/
theorem adaptSize_succeeds (able : ∀ name ∈ adapting, s.host.failing ≠ some name)
    (inside : s.host.contentBounds.size.isEmpty = false) :
    ∃ t, (perform setting spot (.adaptSize limits)).run s = (.ok (), t) := by
  let x := s.awaitingBounds setting
  let bounds := s.host.contentBounds.size
  have answers : x.host.failing ≠ some "bounding_box" := able _ (by decide)
  have read : Succeeds s.host.failing (.gets Stage.configuration) := fun _ same => same
  have set : Succeeds s.host.failing (setConfiguration fun c => c.setSize
      { width := bounds.width.min limits.width, height := bounds.height.min limits.height }) := fun _ same => same
  have update : Succeeds s.host.failing updateCanvasSize :=
    Attempt.Ensures.bind (Q := fun _ s => s.host.failing = _) read fun c =>
      succeeds_onHost (Host.succeeds_updateCanvasSize c (able _ (by decide)))
  have zoom : Succeeds s.host.failing (onHost (Host.setCanvasZoom (Binary64.ofNat 1))) :=
    succeeds_onHost (Host.succeeds_setCanvasZoom _ (able _ (by decide)))
  have move : Succeeds s.host.failing (onHost (Host.moveCanvas { x := .zero, y := .zero })) :=
    succeeds_onHost (Host.succeeds_record _ (able _ (by decide)))
  have all := set.bind fun _ => update.bind fun _ => zoom.bind fun _ => move
  obtain ⟨_, u, ends, -⟩ := all.exists_ok (s := x) rfl
  have outside : ¬ bounds.isEmpty = true := by simp only [bounds, inside, Bool.false_eq_true, not_false_eq_true]
  have adapted : (adaptSize setting limits).run s = (.ok (), u) := by
    refine (Attempt.run_bind_ok run_settle_awaitingBounds _).trans ?_
    refine (Attempt.run_bind_ok (run_getBounds answers) _).trans ?_
    exact (congrArg (fun y => Attempt.run y x) (if_neg outside)).trans ends
  exact ⟨_, (Attempt.run_bind_ok adapted _).trans rfl⟩

end Stage

end Success

/-- What comes of adapting the size to the content of the canvas within limits. The configuration has a
size with an inside only for positive limits; then this is also the size of the canvas. -/
structure Adapted (limits : SizeLimits) (before after : Stage) : Prop where
  width_le_limit : after.configuration.size.width.le limits.width = true
  height_le_limit : after.configuration.size.height.le limits.height = true
  width_le_content : after.configuration.size.width.le before.host.contentBounds.size.width = true
  height_le_content : after.configuration.size.height.le before.host.contentBounds.size.height = true
  isEmpty_eq_false_iff : after.configuration.size.isEmpty = false ↔
    Binary64.zero.lt limits.width = true ∧ Binary64.zero.lt limits.height = true
  canvas : after.host.canvas = if after.configuration.size.isEmpty then before.host.canvas else after.configuration.size

namespace Stage

variable {setting : Setting} {spot : Spot} {limits : SizeLimits} {s t : Stage}

/-- Adapting to a content with an inside leaves the lesser of the limits and the content. -/
theorem adapted_of_adaptSize (done : (perform setting spot (.adaptSize limits)).run s = (.ok (), t))
    (width : s.host.contentBounds.size.width.isFinite = true) (height : s.host.contentBounds.size.height.isFinite = true)
    (inside : s.host.contentBounds.size.isEmpty = false)
    (limited : limits.width.isFinite = true ∧ limits.height.isFinite = true) : Adapted limits s t := by
  have wide := Binary64.isFinite_min width limited.1
  have high := Binary64.isFinite_min height limited.2
  have size : t.configuration.size = Size.canonical
      { width := s.host.contentBounds.size.width.min limits.width
        height := s.host.contentBounds.size.height.min limits.height } := by
    rw [configuration_of_adaptSize done]
    exact Configuration.size_setSize _ wide high
  have units : t.configuration.size.width.signedUnits =
        min s.host.contentBounds.size.width.signedUnits limits.width.signedUnits ∧
      t.configuration.size.height.signedUnits =
        min s.host.contentBounds.size.height.signedUnits limits.height.signedUnits := by
    rw [size]
    simp only [Size.canonical, Binary64.signedUnits_canonical, Binary64.signedUnits_min width limited.1,
      Binary64.signedUnits_min height limited.2, and_self]
  have finite : t.configuration.size.width.isFinite = true ∧ t.configuration.size.height.isFinite = true := by
    rw [size]
    exact ⟨Binary64.isFinite_canonical wide, Binary64.isFinite_canonical high⟩
  have positive := (Size.isEmpty_eq_false_iff width height).1 inside
  constructor
  case canvas => exact canvas_of_adaptSize done
  case isEmpty_eq_false_iff =>
    rw [Size.isEmpty_eq_false_iff finite.1 finite.2, Binary64.lt_iff Binary64.isFinite_zero limited.1,
      Binary64.lt_iff Binary64.isFinite_zero limited.2, Binary64.signedUnits_zero]
    omega
  case width_le_limit => exact (Binary64.le_iff finite.1 limited.1).2 (by omega)
  case height_le_limit => exact (Binary64.le_iff finite.2 limited.2).2 (by omega)
  case width_le_content => exact (Binary64.le_iff finite.1 width).2 (by omega)
  case height_le_content => exact (Binary64.le_iff finite.2 height).2 (by omega)

/-- **Adapting the size.** For a payload that the rules accept and a content with an inside, an adapting that
succeeds leaves a size within the limits and the content, and a canvas of that size if the limits are positive;
it succeeds unless the host fails an operation. A content without an inside is not adapted to, and then the
configuration and the view are left as they are. -/
theorem adaptSize_bounded (setting : Setting) (spot : Spot) (s : Stage) {v : Value} (proper : v.Proper)
    (valid : (Validation.ofEntries [.object [(Kind.adaptSize.key, v)]]).valid = true) :
    ∃ fields limits, v = .object fields ∧ limits.StandIn fields ∧
      Instruction.decode .adaptSize v = .ok (.adaptSize limits) ∧
      (s.host.contentBounds.size.isEmpty = false → s.host.contentBounds.size.width.isFinite = true →
        s.host.contentBounds.size.height.isFinite = true →
        (∀ t, (perform setting spot (.adaptSize limits)).run s = (.ok (), t) → Adapted limits s t) ∧
          ((∀ name ∈ adapting, s.host.failing ≠ some name) →
            ∃ t, (perform setting spot (.adaptSize limits)).run s = (.ok (), t))) ∧
      (s.host.contentBounds.size.isEmpty = true →
        ∃ t, (perform setting spot (.adaptSize limits)).run s =
            (.error (if s.host.failing = some "bounding_box" then .host (Host.injected "bounding_box")
              else .emptyBounds), t) ∧
          t.configuration = s.configuration ∧ t.host.canvas = s.host.canvas ∧ t.host.zoom = s.host.zoom) := by
  obtain ⟨kind, w, same, accepts⟩ := Validation.valid_ofEntries_iff.1 valid _ List.mem_cons_self
  obtain ⟨key, rfl⟩ : Kind.adaptSize.key = kind.key ∧ v = w := by simpa using same
  obtain rfl := Kind.key_injective key
  obtain ⟨fields, limits, rfl, decoded, standIn⟩ := SizeLimits.exists_of_accepts accepts
  refine ⟨fields, limits, rfl, standIn, decoded, fun inside width height => ⟨fun t done => ?_, fun able => ?_⟩,
    fun empty => ?_⟩
  · exact adapted_of_adaptSize done width height inside (standIn.isFinite proper)
  · exact adaptSize_succeeds able inside
  · exact ⟨_, run_adaptSize_of_empty empty, rfl, rfl, rfl⟩

/-- The setting of a session with nothing to resolve. -/
def plainSetting : Setting where
  resolver := Settings.default.resolver .empty 64
  settings := .default

/-- A limit for the height that is less than the canvas, and one for the width. -/
def limitsWithWidth (width : Int) : Value := .object [("maxHeight", .int 600), ("maxWidth", .int width)]

/-- The stage of a new host. -/
def freshStage : Stage := (Host.ofPictures "/pics").stage (Draws.ofSource fun _ => 0)

theorem adaptSize_bounded_narrow :
    (limitsWithWidth 512).Proper ∧
      (Validation.ofEntries [.object [(Kind.adaptSize.key, limitsWithWidth 512)]]).valid = true ∧
      ∃ limits t, (perform plainSetting ⟨0, none⟩ (.adaptSize limits)).run freshStage = (.ok (), t) ∧
        Adapted limits freshStage t ∧ t.host.canvas = ⟨.ofNat 512, .ofNat 600⟩ := by
  have proper : (limitsWithWidth 512).Proper :=
    .object (by decide) (List.forall_mem_cons.2 ⟨.int (by decide) (by decide),
      List.forall_mem_singleton.2 (.int (by decide) (by decide))⟩)
  have valid : (Validation.ofEntries [.object [(Kind.adaptSize.key, limitsWithWidth 512)]]).valid = true := by
    decide +kernel
  obtain ⟨fields, ⟨width, height⟩, same, ⟨wide, high⟩, -, adapts, -⟩ :=
    adaptSize_bounded plainSetting ⟨0, none⟩ freshStage proper valid
  cases same
  cases wide
  cases high
  obtain ⟨adapted, succeeds⟩ := adapts (by decide +kernel) (by decide +kernel) (by decide +kernel)
  obtain ⟨t, done⟩ := succeeds (by decide +kernel)
  refine ⟨proper, valid, _, t, done, adapted t done, ?_⟩
  obtain rfl := congrArg Prod.snd done
  decide +kernel

/-- Without a width the configuration is left without an inside, and the canvas is not the size of it. -/
theorem adaptSize_unusable_noWidth :
    (Validation.ofEntries [.object [(Kind.adaptSize.key, limitsWithWidth 0)]]).valid = true ∧
      freshStage.host.contentBounds.size.isEmpty = false ∧
      freshStage.host.contentBounds.size.width.isFinite = true ∧
      freshStage.host.contentBounds.size.height.isFinite = true ∧
      ∃ limits t, Instruction.decode .adaptSize (limitsWithWidth 0) = .ok (.adaptSize limits) ∧
        (perform plainSetting ⟨0, none⟩ (.adaptSize limits)).run freshStage = (.ok (), t) ∧
        t.configuration.size.isEmpty = true ∧ t.host.canvas ≠ t.configuration.size := by
  refine ⟨by decide +kernel, by decide +kernel, by decide +kernel, by decide +kernel,
    ⟨.ofInt 0, .ofInt 600⟩, _, rfl, Attempt.run_eq_of_isOk ?_, ?_, ?_⟩
  · decide +kernel
  · decide +kernel
  · decide +kernel

end Stage

end CanvasScript
