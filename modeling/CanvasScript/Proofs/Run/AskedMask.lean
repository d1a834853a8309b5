import CanvasScript.Proofs.Run.MaskOfAnswer
import CanvasScript.Proofs.View.Literals

/-!
# Asking for a mask

A mask for what a model answers takes three operations of the host, and a fourth where there is a rectangle in the
answer (`Host.maskNeeds`). It is made where the host refuses none of these (`Stage.run_maskOfQuery`). Where one of
them is refused, asking stops there and leaves all of the stage but its host (`Stage.stopsAt_maskOfQuery`). So asking
for a mask comes to a mask of the canvas's size, filled or noted as empty, or to a failure without a note
(`Stage.maskAsk_makes_mask`).
-/

namespace CanvasScript

/-- The operations that a mask for the answer of a host takes: a mask is only filled for four numbers or more. -/
def Host.maskNeeds (host : Host) : List String :=
  ["answer", "canvas_size", "create_mask"] ++
    if 4 ≤ (answerNumbers host.answerText.toList).length then ["fill_mask_rectangle"] else []

theorem Host.mem_maskNeeds_iff {host : Host} {name : String} : name ∈ host.maskNeeds ↔
    name = "answer" ∨ name = "canvas_size" ∨ name = "create_mask" ∨
      name = "fill_mask_rectangle" ∧ ∃ rect, Rect.ofAnswer? host.answerText host.canvas = some rect := by
  rw [← Option.isSome_iff_exists, Rect.isSome_ofAnswer?_iff, maskNeeds]
  split
  · next enough => simp [enough]
  · next few => simp [few]

namespace Stage

variable {entry : Entry} {model query name : String} {s : Stage}

section Made

/-- A mask is made by a host that does not refuse it. -/
theorem run_newMask {call : MaskHandle → Call} (works : s.host.failing ≠ some (call s.nextMask).name) :
    (onHost (Host.newMask call)).run s = (.ok s.nextMask, s.withMask call) := by
  have made : (Host.newMask call).run s.host = _ := Host.run_newMask_of_working works
  rw [run_onHost, made, Array.push_eq_append]
  rfl

/-- The stage behind what a model is asked for a mask. -/
def inquired (s : Stage) (model query : String) : Stage := s.logged [.answer model (rectangleQuestion query)]

/-- A model is asked, and the canvas is as large as when its answer is read. -/
theorem run_inquiry (model query : String) (answers : s.host.failing ≠ some "answer")
    (sizes : s.host.failing ≠ some "canvas_size") :
    (queryRect model query).run s =
        (.ok (Rect.ofAnswer? s.host.answerText s.host.canvas), s.inquired model query) ∧
      (onHost Host.getCanvasSize).run (s.inquired model query) = (.ok s.host.canvas, s.inquired model query) :=
  ⟨run_queryRect answers sizes, run_query (s := s.inquired model query) sizes Host.canvas⟩

/-- The stage behind a mask that is still empty. -/
def unfilled (s : Stage) (model query : String) : Stage :=
  (s.inquired model query).withMask (.createMask s.host.canvas .zero)

theorem run_unfilled (model query : String) (makes : s.host.failing ≠ some "create_mask") :
    (onHost (Host.createMask s.host.canvas .zero)).run (s.inquired model query) =
      (.ok s.nextMask, s.unfilled model query) :=
  run_newMask (s := s.inquired model query) makes

/-- A host that refuses nothing that it takes makes a mask for an answer. -/
theorem run_maskOfQuery (able : ∀ name ∈ s.host.maskNeeds, s.host.failing ≠ some name) :
    (maskOfQuery entry model query).run s = (.ok s.nextMask, s.masked entry model query) := by
  have answers : s.host.failing ≠ some "answer" := able _ (by simp [Host.mem_maskNeeds_iff])
  have sizes : s.host.failing ≠ some "canvas_size" := able _ (by simp [Host.mem_maskNeeds_iff])
  have makes : s.host.failing ≠ some "create_mask" := able _ (by simp [Host.mem_maskNeeds_iff])
  obtain ⟨asked, sized⟩ := run_inquiry model query answers sizes
  rw [maskOfQuery, Attempt.run_bind_ok asked, Attempt.run_bind_ok sized,
    Attempt.run_bind_ok (run_unfilled model query makes), masked]
  cases found : Rect.ofAnswer? s.host.answerText s.host.canvas with
  | none => rfl
  | some rect =>
    have fills : s.host.failing ≠ some "fill_mask_rectangle" := able _ (by simp [Host.mem_maskNeeds_iff, found])
    have filled : (onHost (Host.fillMaskRectangle s.nextMask rect (Binary64.ofNat 1))).run (s.unfilled model query) =
      _ := run_record (s := s.unfilled model query) fills
    dsimp only
    rw [Attempt.run_bind_ok filled]
    rfl

end Made

section Stopped

/-- An action stops where the host refuses an operation, and leaves all of the stage but its host. -/
def StopsAt (name : String) (x : StageAction α) (s : Stage) : Prop :=
  ∃ host, x.run s = (.error (.host (Host.injected name)), { s with host })

variable {x : StageAction α} {f : α → StageAction β}

theorem StopsAt.bind (stops : StopsAt name x s) (f : α → StageAction β) : StopsAt name (x >>= f) s := by
  obtain ⟨host, failed⟩ := stops
  exact ⟨host, Attempt.run_bind_error failed f⟩

/-- What was done on the host before does not matter. -/
theorem StopsAt.after {a : α} {host : Host} (done : x.run s = (.ok a, { s with host }))
    (stops : StopsAt name (f a) { s with host }) : StopsAt name (x >>= f) s := by
  obtain ⟨host', failed⟩ := stops
  refine ⟨host', ?_⟩
  rw [Attempt.run_bind_ok done, failed]

theorem stopsAt_onHost {x : HostAction α} (op : Host.Operation name x) (able : name ≠ "settle")
    (refuses : s.host.failing = some name) : StopsAt name (onHost x) s := by
  refine ⟨s.host.behindRefusal name, ?_⟩
  rw [run_onHost, op.run_of_failing refuses able]
  rfl

/-- Asking a model stops where one of the two operations for it is refused. -/
theorem stopsAt_queryRect (needed : name = "answer" ∨ name = "canvas_size") (refuses : s.host.failing = some name) :
    StopsAt name (queryRect model query) s := by
  rcases needed with rfl | rfl
  · exact (stopsAt_onHost (.answer _ _) (by decide) refuses).bind _
  · have answers : s.host.failing ≠ some "answer" := by simp [refuses]
    have sizing : StopsAt "canvas_size" (onHost Host.getCanvasSize) (s.inquired model query) :=
      stopsAt_onHost .canvasSize (by decide) refuses
    exact .after (run_answer answers) (sizing.bind _)

/-- Asking for a mask stops where the host refuses what it takes. -/
theorem stopsAt_maskOfQuery (needed : name ∈ s.host.maskNeeds) (refuses : s.host.failing = some name) :
    StopsAt name (maskOfQuery entry model query) s := by
  obtain asking | asking | rfl | ⟨rfl, rect, found⟩ := Host.mem_maskNeeds_iff.1 needed
  · exact (stopsAt_queryRect (.inl asking) refuses).bind _
  · exact (stopsAt_queryRect (.inr asking) refuses).bind _
  · obtain ⟨asked, sized⟩ := run_inquiry (s := s) model query (by simp [refuses]) (by simp [refuses])
    have making : StopsAt "create_mask" (onHost (Host.createMask s.host.canvas .zero)) (s.inquired model query) :=
      stopsAt_onHost (.createMask _ _) (by decide) refuses
    exact .after asked (.after sized (making.bind _))
  · obtain ⟨asked, sized⟩ := run_inquiry (s := s) model query (by simp [refuses]) (by simp [refuses])
    have made := run_unfilled (s := s) model query (by simp [refuses])
    have filling : StopsAt "fill_mask_rectangle"
        (onHost (Host.fillMaskRectangle s.nextMask rect (Binary64.ofNat 1))) (s.unfilled model query) :=
      stopsAt_onHost (.fillMaskRectangle _ _ _) (by decide) refuses
    refine .after asked (.after sized (.after made ?_))
    rw [found]
    exact filling.bind _

end Stopped

theorem recoveries_masked : (s.masked entry model query).recoveries.toList =
    s.recoveries.toList ++
      if 4 ≤ (answerNumbers s.host.answerText.toList).length then []
      else
        [{ index := entry.index, kind := entry.kind, recovery := .emptyMask, reason := "no rectangle in answer" }] := by
  simp only [← Rect.isSome_ofAnswer?_iff s.host.answerText s.host.canvas, masked]
  cases Rect.ofAnswer? s.host.answerText s.host.canvas with
  | some rect => simp [withMask, logged]
  | none => simp [withMask, logged, noted]

theorem rest_masked : s.masked entry model query =
    { s with host := (s.masked entry model query).host, recoveries := (s.masked entry model query).recoveries } := by
  unfold masked
  cases Rect.ofAnswer? s.host.answerText s.host.canvas with
  | some rect => simp [withMask, logged]
  | none => simp [withMask, logged, noted]

/-- **Asking for a mask makes one or fails.** Where the host refuses nothing that is taken for it, a model is asked
once and then a mask of the canvas's size is made, which becomes the mask of the stage. With four numbers or more in
the answer the rectangle of these is filled on it; with fewer it stays empty, and one note says so. A host that
refuses something that is taken makes asking fail with just that, and the stage keeps its mask and gets no note. -/
theorem maskAsk_makes_mask (setting : Setting) (spot : Spot) (query : String) (s : Stage) :
    let enough := 4 ≤ (answerNumbers s.host.answerText.toList).length
    let rect? := Rect.ofAnswer? s.host.answerText s.host.canvas
    (rect?.isSome ↔ enough) ∧
      (∀ name, name ∈ s.host.maskNeeds ↔ name ∈ ["answer", "canvas_size", "create_mask"] ∨
        name = "fill_mask_rectangle" ∧ enough) ∧
      ((∀ name ∈ s.host.maskNeeds, s.host.failing ≠ some name) →
        ∃ mask t, (perform setting spot (.maskAsk query)).run s = (.ok (), t) ∧ t.mask = some mask ∧
          t.host.calls.toList = s.host.calls.toList ++
            (.answer setting.settings.askModel (rectangleQuestion query) :: .createMask s.host.canvas .zero mask ::
              fills mask rect?) ∧
          t.recoveries.toList = s.recoveries.toList ++
            (if enough then []
            else [{ index := spot.index, kind := .maskAsk, recovery := .emptyMask,
                    reason := "no rectangle in answer" }]) ∧
          t = { s with host := t.host, recoveries := t.recoveries, mask := t.mask }) ∧
      ∀ name ∈ s.host.maskNeeds, s.host.failing = some name →
        ∃ t, (perform setting spot (.maskAsk query)).run s = (.error (.host (Host.injected name)), t) ∧
          t.recoveries = s.recoveries ∧ t.mask = s.mask ∧ t = { s with host := t.host } := by
  intro enough rect?
  refine ⟨Rect.isSome_ofAnswer?_iff _ _, ?_, ?_, ?_⟩
  · intro name
    by_cases four : enough <;> simp [Host.maskNeeds, four, enough, or_assoc]
  · intro able
    let entry : Entry := { index := spot.index, kind := .maskAsk }
    have made : (maskOfQuery entry setting.settings.askModel query).run s = _ := run_maskOfQuery able
    refine ⟨s.nextMask, { s.masked entry setting.settings.askModel query with mask := some s.nextMask }, ?_, rfl,
      calls_masked, recoveries_masked, ?_⟩
    · exact Attempt.run_bind_ok made _
    · rw [rest_masked]
  · intro name needed refuses
    obtain ⟨host, failed⟩ : StopsAt name (perform setting spot (.maskAsk query)) s :=
      (stopsAt_maskOfQuery needed refuses).bind _
    exact ⟨{ s with host }, failed, rfl, rfl, rfl⟩

/-- A host that refuses to fill masks makes one for an answer of two numbers, and none for one of five. -/
theorem maskAsk_makes_mask_unfilled :
    let unable (text : String) : Stage :=
      { freshStage with
        host := { freshStage.host with answerText := text, failing := some "fill_mask_rectangle" } }
    let asked (text : String) := (perform plainSetting ⟨3, none⟩ (.maskAsk "the hat")).run (unable text)
    (∃ mask t, asked "2 hats, 0.5 apart" = (.ok (), t) ∧ t.mask = some mask ∧
      t.host.calls.toList = [.answer plainSetting.settings.askModel (rectangleQuestion "the hat"),
        .createMask (unable "").host.canvas .zero mask] ∧
      t.recoveries.toList =
        [{ index := 3, kind := .maskAsk, recovery := .emptyMask, reason := "no rectangle in answer" }]) ∧
    ∃ t, asked "0.9: 0.25, 0.5, 0.75, 1" = (.error (.host (Host.injected "fill_mask_rectangle")), t) ∧
      t.recoveries = #[] ∧ t.mask = none := by
  intro unable asked
  constructor
  · obtain ⟨-, -, makes, -⟩ :=
      maskAsk_makes_mask plainSetting ⟨3, none⟩ "the hat" (unable "2 hats, 0.5 apart")
    have few : ¬4 ≤ (answerNumbers (unable "2 hats, 0.5 apart").host.answerText.toList).length := by decide +kernel
    have empty : Rect.ofAnswer? (unable "2 hats, 0.5 apart").host.answerText
        (unable "2 hats, 0.5 apart").host.canvas = none := by
      decide +kernel
    obtain ⟨mask, t, done, set, log, notes, -⟩ := makes (by decide +kernel)
    rw [if_neg few] at notes
    rw [empty] at log
    exact ⟨mask, t, done, set, log, notes⟩
  · obtain ⟨-, -, -, fails⟩ :=
      maskAsk_makes_mask plainSetting ⟨3, none⟩ "the hat" (unable "0.9: 0.25, 0.5, 0.75, 1")
    obtain ⟨t, failed, notes, mask, -⟩ := fails "fill_mask_rectangle" (by decide +kernel) rfl
    exact ⟨t, failed, notes, mask⟩


end Stage

end CanvasScript
