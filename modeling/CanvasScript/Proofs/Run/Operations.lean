import CanvasScript.Proofs.Host.Handles
import CanvasScript.Proofs.Outcome
import CanvasScript.Proofs.Run.Composition

/-!
# Operations at a stage

What an operation of the host does at a stage that does not refuse it (`Stage.run_record`,
`Stage.run_query`), and that an action does not succeed which takes a refused one
(`Stage.Refused`). What an action that succeeds leaves can then be told from the stage before
it: so a mask for what a model answers has the size of the canvas for which the answer is read
(`Stage.masked_of_maskOfQuery`).
-/

namespace CanvasScript.Stage

variable {entry : Entry} {model query : String} {mask : MaskHandle} {s t : Stage}

section Success

/-- The stage with calls recorded by its host. -/
def logged (s : Stage) (made : List Call) : Stage :=
  { s with host := { s.host with calls := s.host.calls ++ made.toArray } }

/-- The stage with a recovery noted. -/
def noted (s : Stage) (event : RecoveryEvent) : Stage := { s with recoveries := s.recoveries.push event }

theorem logged_nil : s.logged [] = s := by simp [logged]

theorem logged_logged (first second : List Call) : (s.logged first).logged second = s.logged (first ++ second) := by
  simp [logged]

theorem calls_logged (made : List Call) : (s.logged made).host.calls.toList = s.host.calls.toList ++ made := by
  simp [logged]

theorem run_record {call : Call} (works : s.host.failing ≠ some call.name) :
    (onHost (Host.record call)).run s = (.ok (), s.logged [call]) := by
  rw [run_onHost, Host.run_record_of_working works, Array.push_eq_append]
  rfl

theorem run_query {operation : String} (works : s.host.failing ≠ some operation) (f : Host → α) :
    (onHost (Host.query operation f)).run s = (.ok (f s.host), s) := by
  rw [run_onHost, Host.run_query_of_working works]
  rfl

theorem run_query_refused {operation : String} (refuses : s.host.failing = some operation) (f : Host → α) :
    (onHost (Host.query operation f)).run s = (.error (.host (Host.injected operation)), s) := by
  rw [run_onHost, Host.run_query_of_failing refuses]
  rfl

theorem run_answer {question : String} (answers : s.host.failing ≠ some "answer") :
    (onHost (Host.answer model question)).run s = (.ok s.host.answerText, s.logged [.answer model question]) := by
  have recorded : (Host.record (.answer model question)).run s.host = _ := Host.run_record_of_working answers
  rw [run_onHost, Host.answer, Attempt.run_bind_ok recorded, Array.push_eq_append]
  rfl

/-- Asking a model records the question, and what it answers is read for the canvas. -/
theorem run_queryRect (answers : s.host.failing ≠ some "answer") (sizes : s.host.failing ≠ some "canvas_size") :
    (queryRect model query).run s =
      (.ok (Rect.ofAnswer? s.host.answerText s.host.canvas), s.logged [.answer model (rectangleQuestion query)]) := by
  have sized : (onHost Host.getCanvasSize).run (s.logged [.answer model (rectangleQuestion query)]) = _ :=
    run_query (s := s.logged _) sizes Host.canvas
  rw [queryRect, Attempt.run_bind_ok (run_answer answers), Attempt.run_bind_ok sized]
  rfl

end Success

section Refusal

variable {refused : String}

/-- An action does not succeed where the host refuses an operation. -/
abbrev Refused (refused : String) (x : StageAction α) : Prop :=
  x.Ensures (fun s => s.host.failing = some refused) (fun _ _ => False) fun s => s.host.failing = some refused

theorem Refused.not_ok {x : StageAction α} {a : α} (never : Refused refused x) (done : x.run s = (.ok a, t)) :
    s.host.failing ≠ some refused := by
  intro refuses
  have here := never s refuses
  rw [done] at here
  exact here

theorem Refused.bind {x : StageAction α} (first : Refused refused x) (f : α → StageAction β) :
    Refused refused (x >>= f) :=
  Attempt.Ensures.bind first fun _ _ impossible => impossible.elim

/-- What was done before does not make up for a refusal. -/
theorem Refused.after {x : StageAction α} {f : α → StageAction β}
    (adds : x.Within (BetweenHosts (Host.Adds fun _ => True))) (second : ∀ a, Refused refused (f a)) :
    Refused refused (x >>= f) := by
  refine Attempt.Ensures.bind (Q := fun _ s => s.host.failing = some refused) ?_ second
  intro s refuses
  have same := (adds s).failing.trans refuses
  rcases ends : x.run s with ⟨_ | a, t⟩ <;> rw [ends] at same <;> exact same

theorem refused_onHost {x : HostAction α} (op : Host.Operation refused x) (able : refused ≠ "settle") :
    Refused refused (onHost x) := by
  intro s refuses
  rw [run_onHost, op.run_of_failing refuses able]
  exact refuses

theorem adds_onHost {name : String} {x : HostAction α} (op : Host.Operation name x) :
    (onHost x).Within (BetweenHosts (Host.Adds fun _ => True)) :=
  within_onHost fun host => (op.within_adds host).mono fun _ _ => trivial

end Refusal

section Left

/-- An operation on the host leaves the rest of the stage. -/
theorem host_of_onHost {x : HostAction α} {a : α} (done : (onHost x).run s = (.ok a, t)) :
    x.run s.host = (.ok a, t.host) ∧ t = { s with host := t.host } := by
  rw [run_onHost] at done
  obtain ⟨outcome, rfl⟩ := Prod.mk.inj done
  exact ⟨Prod.ext (Outcome.mapError_eq_ok_iff.1 outcome) rfl, rfl⟩

/-- A query leaves the host as it is and tells what it is asked. -/
theorem query_of_onHost {operation : String} {f : Host → α} {a : α}
    (done : (onHost (Host.query operation f)).run s = (.ok a, t)) : a = f s.host ∧ t = s := by
  by_cases refuses : s.host.failing = some operation
  · cases (run_query_refused refuses f).symm.trans done
  · cases (run_query refuses f).symm.trans done
    exact ⟨rfl, rfl⟩

/-- What is recorded is what was done. -/
theorem logged_of_record {call : Call} (done : (onHost (Host.record call)).run s = (.ok (), t)) :
    t = s.logged [call] := by
  by_cases refuses : s.host.failing = some call.name
  · rw [run_onHost, Host.run_record_of_failing refuses] at done
    cases done
  · cases (run_record refuses).symm.trans done
    rfl

theorem logged_of_queryRect {rect? : Option (Rect Binary64)} (done : (queryRect model query).run s = (.ok rect?, t)) :
    rect? = Rect.ofAnswer? s.host.answerText s.host.canvas ∧
      t = s.logged [.answer model (rectangleQuestion query)] := by
  have unanswered : Refused "answer" (queryRect model query) := .bind (refused_onHost (.answer _ _) (by decide)) _
  have unsized : Refused "canvas_size" (queryRect model query) :=
    .after (adds_onHost (.answer _ _)) fun _ => .bind (refused_onHost .canvasSize (by decide)) _
  cases (run_queryRect (unanswered.not_ok done) (unsized.not_ok done)).symm.trans done
  exact ⟨rfl, rfl⟩

/-- The mask that is made next. -/
def nextMask (s : Stage) : MaskHandle := Host.maskOf (s.host.handedOut + 1)

/-- The stage with a mask made by a call. -/
def withMask (s : Stage) (call : MaskHandle → Call) : Stage :=
  { s.logged [call s.nextMask] with
    host := { (s.logged [call s.nextMask]).host with handedOut := s.host.handedOut + 1 } }

theorem withMask_of_newMask {call : MaskHandle → Call} (done : (onHost (Host.newMask call)).run s = (.ok mask, t)) :
    mask = s.nextMask ∧ t = s.withMask call := by
  rcases Host.run_newMask call s.host with ⟨e, failed⟩ | numbered
  · rw [run_onHost, failed] at done
    cases done
  · rw [run_onHost, numbered, Array.push_eq_append] at done
    cases done
    exact ⟨rfl, rfl⟩

/-- The stage with a mask of the canvas's size made for what a model answers. -/
def masked (s : Stage) (entry : Entry) (model query : String) : Stage :=
  let empty := (s.logged [.answer model (rectangleQuestion query)]).withMask (.createMask s.host.canvas .zero)
  match Rect.ofAnswer? s.host.answerText s.host.canvas with
  | some rect => empty.logged [.fillMaskRectangle s.nextMask.id rect (Binary64.ofNat 1)]
  | none =>
    empty.noted
      { index := entry.index, kind := entry.kind, recovery := .emptyMask, reason := "no rectangle in answer" }

/-- A mask is made for the canvas for which the answer is read. -/
theorem masked_of_maskOfQuery (done : (maskOfQuery entry model query).run s = (.ok mask, t)) :
    mask = s.nextMask ∧ t = s.masked entry model query := by
  obtain ⟨rect?, u, asked, making⟩ := Attempt.run_bind_eq_ok_iff.1 done
  obtain ⟨rfl, rfl⟩ := logged_of_queryRect asked
  obtain ⟨canvas, v, sized, creating⟩ := Attempt.run_bind_eq_ok_iff.1 making
  obtain ⟨rfl, rfl⟩ := query_of_onHost sized
  obtain ⟨given, w, created, filling⟩ := Attempt.run_bind_eq_ok_iff.1 creating
  obtain ⟨rfl, rfl⟩ := withMask_of_newMask created
  unfold masked
  cases found : Rect.ofAnswer? s.host.answerText s.host.canvas with
  | some rect =>
    rw [found] at filling
    obtain ⟨_, x, filled, ends⟩ := Attempt.run_bind_eq_ok_iff.1 filling
    obtain rfl := logged_of_record filled
    cases ends
    exact ⟨rfl, rfl⟩
  | none =>
    rw [found] at filling
    obtain ⟨_, x, noted, ends⟩ := Attempt.run_bind_eq_ok_iff.1 filling
    cases noted
    cases ends
    exact ⟨rfl, rfl⟩

end Left

end CanvasScript.Stage
