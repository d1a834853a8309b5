import CanvasScript.Proofs.Host.Handles

/-!
# What a refusal leaves

A host that refuses an operation is left as it was, unless the operation makes a mask: then a
number is lost (`Operation.run_of_failing`). What hands nothing out does not notice a lost number
(`Operation.ignores_lost`), and what hands something out tells it by a name
(`Operation.notices_lost`). So a refusal leaves no trace just if its operation makes no mask
(`refusal_leaves_host_iff`).
-/

namespace CanvasScript.Host

/-- The host with a number given to nothing. -/
def losing (host : Host) : Host := { host with handedOut := host.handedOut + 1 }

theorem losing_ne (host : Host) : host.losing ≠ host := by
  intro same
  have numbers : host.handedOut + 1 = host.handedOut := congrArg handedOut same
  omega

theorem behindRefusal_of_mask {name : String} (mask : makesMask name = true) (host : Host) :
    host.behindRefusal name = host.losing := by
  simp [behindRefusal, losing, mask]

theorem behindRefusal_of_other {name : String} (other : makesMask name = false) (host : Host) :
    host.behindRefusal name = host := by
  simp [behindRefusal, other]

section Unnoticed

/-- An action comes out as if no number had been lost. -/
abbrev IgnoresLost (x : HostAction α) : Prop := x.Commutes (fun _ => True) losing

theorem ignoresLost_guard (operation : String) : IgnoresLost (guard operation) := by
  intro host _
  by_cases fails : host.failing = some operation
  · have fails' : host.losing.failing = some operation := fails
    rw [run_guard_of_failing fails, run_guard_of_failing fails']
    exact ⟨rfl, trivial⟩
  · have works' : host.losing.failing ≠ some operation := fails
    rw [run_guard_of_working fails, run_guard_of_working works']
    exact ⟨rfl, trivial⟩

theorem ignoresLost_modify {g : Host → Host} (commutes : ∀ host, g host.losing = (g host).losing) :
    IgnoresLost (.modify g : HostAction Unit) := .modify commutes fun _ _ => trivial

theorem ignoresLost_record (call : Call) : IgnoresLost (record call) :=
  (ignoresLost_guard _).bind fun _ => ignoresLost_modify fun _ => rfl

theorem ignoresLost_query (operation : String) {f : Host → α} (blind : ∀ host, f host.losing = f host) :
    IgnoresLost (query operation f) :=
  (ignoresLost_guard operation).bind fun _ => .gets blind

variable {name : String} {x : HostAction α}

/-- What hands nothing out does not notice that a number is lost. -/
theorem Operation.ignores_lost (op : Operation name x) (idle : handsOut name = false) : IgnoresLost x := by
  cases op with
  | configuration | negativePrompt | canvasSize | canvasZoom | bounds | modelsDownloaded _ =>
    exact ignoresLost_query _ fun _ => rfl
  | readEntries _ => exact (ignoresLost_guard _).bind fun _ => .bind (.gets fun _ => rfl) fun _ => .ofExcept _
  | updateCanvasSize _ =>
    apply (ignoresLost_record _).bind
    intro _
    apply ignoresLost_modify
    intro host
    split <;> rfl
  | setCanvasZoom _ => exact (ignoresLost_record _).bind fun _ => ignoresLost_modify fun _ => rfl
  | detectFaces =>
    refine (ignoresLost_record _).bind fun _ => .bind (.gets fun _ => rfl) fun faces => ?_
    cases faces with
    | ok faces => exact .pure faces
    | error message => exact .fail _
  | answer _ _ => exact (ignoresLost_record _).bind fun _ => .gets fun _ => rfl
  | settle _ => exact ignoresLost_modify fun _ => rfl
  | saveImageSrc | saveDepthMapSrc | backgroundMask | foregroundMask | bodyMask _ _ | createMask _ _ =>
    exact absurd idle (by decide)
  | _ => exact ignoresLost_record _

end Unnoticed

section Noticed

variable {host : Host} {name : String} {x : HostAction α}

/-- A mask has another number where one was lost. -/
theorem newMask_notices_lost {call : MaskHandle → Call} (works : ∀ mask, host.failing ≠ some (call mask).name) :
    ((newMask call).run host.losing).1 ≠ ((newMask call).run host).1 := by
  have able : host.losing.failing ≠ some (call (maskOf (host.losing.handedOut + 1))).name := works _
  rw [run_newMask_of_working able, run_newMask_of_working (works _)]
  intro same
  have numbers : host.losing.handedOut + 1 = host.handedOut + 1 := maskOf_inj.1 (Except.ok.inj same)
  simp [losing] at numbers

/-- So has an image. -/
theorem newSrc_notices_lost (what : String) {call : String → Call} (named : ∀ src, (call src).name = (call "").name)
    (works : host.failing ≠ some (call "").name) :
    ((newSrc what call).run host.losing).1 ≠ ((newSrc what call).run host).1 := by
  have able : host.losing.failing ≠ some (call "").name := works
  rw [run_newSrc_of_working what named able, run_newSrc_of_working what named works]
  intro same
  have numbers : host.losing.handedOut + 1 = host.handedOut + 1 := srcOf_inj.1 (Except.ok.inj same)
  simp [losing] at numbers

/-- What hands something out tells that a number is lost, unless it is refused. -/
theorem Operation.notices_lost (op : Operation name x) (hands : handsOut name = true)
    (works : host.failing ≠ some name) : (x.run host.losing).1 ≠ (x.run host).1 := by
  cases op with
  | saveImageSrc => exact newSrc_notices_lost "canvas" (fun _ => rfl) works
  | saveDepthMapSrc => exact newSrc_notices_lost "depth" (fun _ => rfl) works
  | backgroundMask | foregroundMask | bodyMask _ _ | createMask _ _ => exact newMask_notices_lost fun _ => works
  | _ => exact absurd hands (by decide)

/-- After a refused mask the next operation answers as if that had not been asked for just if it hands
nothing out or is refused itself. -/
theorem Operation.answers_alike_iff (op : Operation name x) {refused : String} (fails : host.failing = some refused)
    (able : refused ≠ "settle") :
    (x.run host.losing).1 = (x.run host).1 ↔ handsOut name = false ∨ name = refused := by
  constructor
  · intro alike
    by_contra other
    rw [not_or, Bool.not_eq_false] at other
    obtain ⟨hands, differs⟩ := other
    have works : host.failing ≠ some name := by
      rw [fails]
      intro same
      exact differs (Option.some.inj same).symm
    exact op.notices_lost hands works alike
  · rintro (idle | rfl)
    · rw [(op.ignores_lost idle host trivial).1]
    · have fails' : host.losing.failing = some name := fails
      rw [op.run_of_failing fails able, op.run_of_failing fails' able]

end Noticed

/-- **What a refusal leaves.** An operation that a host is made to fail tells so and does nothing else, but that
the number of a mask is taken before. So the host is left as it was just if the operation makes no mask; and the
operation after it answers as if the refused one had not been asked for unless that one makes a mask, and the
later one hands something out and is not refused itself. -/
theorem refusal_leaves_host_iff {host : Host} {name : String} {x : HostAction α} (op : Operation name x)
    (able : name ≠ "settle") (fails : host.failing = some name) :
    (x.run host).1 = .error (injected name) ∧
      (x.run host).2 = (if makesMask name then { host with handedOut := host.handedOut + 1 } else host) ∧
      ((x.run host).2 = host ↔ makesMask name = false) ∧
      ∀ {β : Type} {later : String} {y : HostAction β}, Operation later y →
        ((y.run (x.run host).2).1 = (y.run host).1 ↔
          makesMask name = false ∨ handsOut later = false ∨ later = name) := by
  rw [op.run_of_failing fails able]
  by_cases mask : makesMask name = true
  · have left : host.behindRefusal name = host.losing := behindRefusal_of_mask mask host
    simp only [left, mask, if_true, Bool.true_eq_false, false_or, iff_false, true_and]
    exact ⟨rfl, host.losing_ne, fun next => next.answers_alike_iff fails able⟩
  · have other : makesMask name = false := Bool.eq_false_iff.2 mask
    have left : host.behindRefusal name = host := behindRefusal_of_other other host
    simp [left, other]

/-- On a host that refuses an operation that makes a mask a number is lost, which another mask tells and a
movement of the canvas does not; one that refuses to give the image on the canvas is left as it was. -/
theorem refusal_leaves_host_iff_newHost :
    let host := Host.ofPictures "/pics"
    let masked := (createMask host.canvas .zero).run (host.refusing "create_mask")
    masked.1 = .error (injected "create_mask") ∧ masked.2 ≠ host.refusing "create_mask" ∧
      (backgroundMask.run masked.2).1 ≠ (backgroundMask.run (host.refusing "create_mask")).1 ∧
      (clearCanvas.run masked.2).1 = (clearCanvas.run (host.refusing "create_mask")).1 ∧
      (saveImageSrc.run (host.refusing "save_image_src")).2 = host.refusing "save_image_src" := by
  intro host masked
  obtain ⟨answer, -, left, alike⟩ := refusal_leaves_host_iff (.createMask host.canvas .zero) (by decide)
    (host.failing_refusing "create_mask")
  obtain ⟨-, -, left', -⟩ := refusal_leaves_host_iff .saveImageSrc (by decide) (host.failing_refusing "save_image_src")
  refine ⟨answer, ?_, ?_, ?_, ?_⟩
  · rw [Ne, left]
    decide
  · rw [Ne, alike .backgroundMask]
    decide
  · rw [alike .clearCanvas]
    decide
  · rw [left']
    decide

/-- A mask that is refused takes a number all the same: the next mask is the second. -/
theorem refusal_changes_host_backgroundMask :
    let host := (Host.ofPictures "/pics").refusing "background_mask"
    (backgroundMask.run host).1 = .error (injected "background_mask") ∧ (backgroundMask.run host).2 ≠ host ∧
      (foregroundMask.run (backgroundMask.run host).2).1 = .ok { id := "mask-2", src := "dryrun://mask/2" } ∧
      (foregroundMask.run host).1 = .ok { id := "mask-1", src := "dryrun://mask/1" } := by
  intro host
  exact ⟨rfl, host.losing_ne, by decide +kernel, by decide +kernel⟩

end CanvasScript.Host
