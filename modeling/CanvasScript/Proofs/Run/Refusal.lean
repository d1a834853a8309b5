import CanvasScript.Proofs.Run.OnHost

/-!
# Runs on a host that refuses an operation

A host that fails one operation every time is told apart from one that fails none at the
first call of that operation only. Up to there a run is the same on both, and there it ends:
nothing is put right on the way, unless faces are looked for (`Stage.Composed.refusal`, one
instruction; `Script.Runs.refusing`, a run). So a run on the failing host either does not
notice or is cut off, before it asks for the operation a first time
(`Script.runOn_refusing`).
-/

namespace CanvasScript

namespace Host.Adds

variable {named : String → Prop} {before after : Host}

theorem isPrefix (adds : Adds named before after) : before.calls.toList <+: after.calls.toList := by
  obtain ⟨made, log, -⟩ := adds.calls
  exact ⟨made, log.symm⟩

/-- On a host that refuses an operation, other than waiting, no call of it is added. -/
theorem of_refusing {refused : String} (able : refused ≠ "settle") (adds : Adds named before after)
    (refuses : before.failing = some refused) :
    ∃ made, after.calls.toList = before.calls.toList ++ made ∧ ∀ call ∈ made, call.name ≠ refused := by
  obtain ⟨made, log, all⟩ := adds.calls
  refine ⟨made, log, fun call mem same => able ?_⟩
  rw [← same]
  exact (all call mem).2 (same ▸ refuses)

end Host.Adds

namespace Stage

/-- The stage with its host refusing an operation. -/
def refusing (s : Stage) (operation : String) : Stage := { s with host := s.host.refusing operation }

@[simp] theorem host_refusing (s : Stage) (operation : String) :
    (s.refusing operation).host = s.host.refusing operation := rfl

/-- How an action comes out where the host refuses an operation, beside how it comes out
where the host fails none. -/
inductive Refusal (refused : String) (x : StageAction α) (s : Stage) : Prop where
  | unnoticed (same : x.run (s.refusing refused) = ((x.run s).1, (x.run s).2.refusing refused))
  | cut {t : Stage} (able : refused ≠ "settle")
      (ends : x.run (s.refusing refused) = (.error (.host (Host.injected refused)), t))
      (log : t.host.calls.toList <+: (x.run s).2.host.calls.toList)

variable {refused : String} {s : Stage}

/-- An operation of the host is refused when it is the one, and nothing is noticed when it is not. -/
theorem refusal_onHost {name : String} {x : HostAction α} (op : Host.Operation name x)
    (works : s.host.failing = none) : Refusal refused (onHost x) s := by
  by_cases asked : name = refused ∧ name ≠ "settle"
  · obtain ⟨rfl, able⟩ := asked
    have cut : (onHost x).run (s.refusing name) =
        (.error (.host (Host.injected name)), { s with host := (s.host.refusing name).behindRefusal name }) := by
      rw [run_onHost, host_refusing, op.run_of_failing (s.host.failing_refusing name) able]
      rfl
    refine .cut able cut ?_
    exact (within_onHost (fun host => (op.within_adds host)) s).isPrefix
  · have other : name ≠ refused ∨ name = "settle" := by
      by_cases same : name = refused
      · exact .inr (Decidable.not_not.1 fun able => asked ⟨same, able⟩)
      · exact .inl same
    obtain ⟨same, -⟩ := op.unnoticed other s.host works
    refine .unnoticed ?_
    rw [run_onHost, run_onHost, host_refusing, same]
    rfl

/-- A second step only adds to the log of the first. -/
theorem isPrefix_of_bind {x : StageAction α} {f : α → StageAction β}
    (second : ∀ a, (f a).Within (BetweenHosts (Host.Adds fun _ => True))) (s : Stage) :
    (x.run s).2.host.calls.toList <+: ((x >>= f).run s).2.host.calls.toList := by
  rw [Attempt.run_bind]
  rcases x.run s with ⟨e | a, t⟩
  · exact List.prefix_rfl
  · exact (second a t).isPrefix

/-- What an instruction does is cut off where it asks for the refused operation, as only
looking for faces goes on after a failure. -/
theorem Composed.refusal {instruction : Instruction} {i j : Nat} {x y : StageAction α}
    (composed : Composed instruction i j x y) (refused : String) (faceless : instruction ≠ .faceZoom)
    (works : s.host.failing = none) : Refusal refused x s := by
  induction composed generalizing s with
  | pure | fail | setConfiguration | setNegativePrompt | setMask | countRender | recover => exact .unnoticed rfl
  | read f blind =>
    refine .unnoticed ?_
    have same : f (s.refusing refused) = f s := blind s (some refused) _ _
    rw [Attempt.run_gets, Attempt.run_gets, same]
  | resolve z =>
    refine .unnoticed ?_
    rw [run_onDraws, run_onDraws]
    rfl
  | ask op | give op => exact refusal_onHost op works
  | @bind _ _ x y f g first second here later =>
    cases here works with
    | cut able ends log =>
      exact .cut able (Attempt.run_bind_error ends f) (log.trans (isPrefix_of_bind (fun a => (second a).adds) s))
    | unnoticed same =>
      have kept := (first.adds s).failing
      rcases run : x.run s with ⟨e | a, t⟩
      · rw [run] at same
        refine .unnoticed ?_
        rw [Attempt.run_bind_error run, Attempt.run_bind_error same]
      · rw [run] at same kept
        cases later a (kept.trans works) with
        | unnoticed again =>
          refine .unnoticed ?_
          rw [Attempt.run_bind_ok run, Attempt.run_bind_ok same, again]
        | cut able ends log =>
          refine .cut able ((Attempt.run_bind_ok same f).trans ends) ?_
          rw [Attempt.run_bind_ok run]
          exact log
  | orElse own => exact absurd own faceless

end Stage

def RunResult.refusing (result : RunResult) (operation : String) : RunResult :=
  { result with stage := result.stage.refusing operation }

def RunSummary.refusing (summary : RunSummary) (operation : String) : RunSummary :=
  { summary with stage := summary.stage.refusing operation }

namespace Script

variable {script : Script} {setting : Setting}

/-- A script without a search for faces. -/
def IsFaceless (script : Script) : Prop := .run .faceZoom ∉ script.steps

/-- A run is the same where the host refuses an operation, or is cut off by the refusal. -/
theorem Runs.refusing {p : Position} {stage : Stage} {made : Array Visit} {result : RunResult}
    (runs : script.Runs setting p stage made result) (refused : String) (faceless : script.IsFaceless)
    (works : stage.host.failing = none) :
    script.Runs setting p (stage.refusing refused) made (result.refusing refused) ∨
      ∃ other e, script.Runs setting p (stage.refusing refused) made other ∧ refused ≠ "settle" ∧
        other.outcome = .error e ∧ e.cause = .host (Host.injected refused) ∧
        other.stage.host.calls.toList <+: result.stage.host.calls.toList := by
  have refusal {p : Position} {stage : Stage} {instruction : Instruction}
      (step : script.steps[p.pointer]? = some (.run instruction)) (works : stage.host.failing = none) :
      Stage.Refusal refused (Stage.perform setting (p.spot instruction) instruction) stage :=
    (Stage.composed_perform setting _ instruction).refusal refused
      (fun same => faceless (same ▸ List.mem_of_getElem? step)) works
  induction runs with
  | behind behind => exact .inl (.behind behind)
  | skip step _ ih =>
    rcases ih works with same | ⟨other, e, cut, rest⟩
    · exact .inl (.skip step same)
    · exact .inr ⟨other, e, .skip step cut, rest⟩
  | fail step failed =>
    cases refusal step works with
    | unnoticed same =>
      rw [failed] at same
      exact .inl (.fail step same)
    | cut able ends log =>
      rw [failed] at log
      exact .inr ⟨_, _, .fail step ends, able, rfl, rfl, log⟩
  | @onward p _ _ stage' _ _ instruction step done after later ih =>
    cases refusal step works with
    | unnoticed same =>
      have adds : Host.Adds _ _ stage'.host := (Stage.composed_perform setting _ instruction).adds.of_run done
      rw [done] at same
      rcases ih (adds.failing.trans works) with same' | ⟨other, e, cut, rest⟩
      · exact .inl (.onward step same after same')
      · exact .inr ⟨other, e, .onward step same after cut, rest⟩
    | cut able ends log =>
      -- Here the run is cut off. The other one goes on, and only adds to its log.
      rw [done] at log
      exact .inr ⟨_, _, .fail step ends, able, rfl, rfl, log.trans later.adds.isPrefix⟩
  | finish step done ends =>
    cases refusal step works with
    | unnoticed same =>
      rw [done] at same
      exact .inl (.finish step same ends)
    | cut able ends log =>
      rw [done] at log
      exact .inr ⟨_, _, .fail step ends, able, rfl, rfl, log⟩

end Script

/-- An error that comes of an operation that was made to fail. -/
def SessionError.IsInjected (operation : String) : SessionError → Prop
  | .host e => e = Host.injected operation
  | .run e => e.cause = .host (Host.injected operation)
  | _ => False

/-- What comes of a run on a host that refuses an operation, beside what comes of it on one
that fails none, when the refusal cuts it off: none of its calls is of the operation. -/
structure CutOff (operation : String) (host : Host) (refused whole : Except SessionError RunSummary × Host) : Prop where
  error : ∃ e, refused.1 = .error e ∧ e.IsInjected operation
  added : ∃ made, refused.2.calls.toList = host.calls.toList ++ made ∧ ∀ call ∈ made, call.name ≠ operation
  isPrefix : refused.2.calls.toList <+: whole.2.calls.toList

namespace Script

variable {script : Script} {setting : Setting} {draws : Draws} {host : Host} {operation : String}

/-- A host that cannot be opened is not asked for anything. -/
theorem cutOff_of_closed (closed : Stage.open? (host.refusing operation) draws = .error (Host.injected operation)) :
    CutOff operation host ((script.runOn setting draws).run (host.refusing operation))
      ((script.runOn setting draws).run host) := by
  rw [runOn_of_error closed]
  exact
    { error := ⟨_, rfl, rfl⟩
      added := ⟨[], (List.append_nil _).symm, List.forall_mem_nil _⟩
      isPrefix := (script.adds_runOn setting draws host).isPrefix }

/-- **A refused operation is not noticed or cuts a run off.** Without a search for faces a
run on a host that fails an operation every time ends as it does on the host that fails
none, with the same log, or with the failure of that operation: then its log is a part of
the other log from the start on, to which the run has added no call of the operation. -/
theorem runOn_refusing (script : Script) (setting : Setting) (draws : Draws) (operation : String) {host : Host}
    (works : host.failing = none) (faceless : script.IsFaceless) :
    let whole := (script.runOn setting draws).run host
    let refused := (script.runOn setting draws).run (host.refusing operation)
    refused = (whole.1.map fun summary => summary.refusing operation, whole.2.refusing operation) ∨
      CutOff operation host refused whole := by
  intro whole refused
  have opened : Stage.open? host draws = .ok (host.stage draws) := by
    simp [Stage.open?_eq, works]
  have opening := Stage.open?_eq (host.refusing operation) draws
  split_ifs at opening with first second
  · obtain rfl : operation = "configuration" := Option.some.inj first
    exact .inr (cutOff_of_closed opening)
  · obtain rfl : operation = "negative_prompt" := Option.some.inj second
    exact .inr (cutOff_of_closed opening)
  · have whole_eq : whole = _ := runOn_of_ok opened
    have refused_eq : refused = _ := runOn_of_ok opening
    rcases (script.runs_runFrom setting .start (host.stage draws) #[]).refusing operation faceless works with
      same | ⟨other, e, cut, able, ends, cause, log⟩
    · left
      have same : script.run setting ((host.refusing operation).stage draws) =
          (script.run setting (host.stage draws)).refusing operation := same.runFrom_eq
      rw [refused_eq, whole_eq, same]
      unfold RunResult.summary RunResult.refusing
      cases (script.run setting (host.stage draws)).outcome <;> rfl
    · right
      have same : script.run setting ((host.refusing operation).stage draws) = other := cut.runFrom_eq
      have failed : refused.1 = .error (.run e) := by
        rw [refused_eq, same, RunResult.summary, ends]
        rfl
      have adds : Host.Adds (fun _ => True) (host.refusing operation) refused.2 :=
        script.adds_runOn setting draws (host.refusing operation)
      have added := adds.of_refusing able rfl
      refine ⟨⟨_, failed, cause⟩, added, ?_⟩
      rw [refused_eq, whole_eq, same]
      exact log

/-- A loop around a crop. -/
def croppedTwice : Script where
  steps := [.run (.loop { count := some (.ofNat 2), start := none }), .run .crop, .run .loopEnd]

/-- Where no image can be loaded the first crop ends with its third call. -/
theorem runOn_refusing_croppedTwice :
    let setting : Setting := { resolver := Settings.default.resolver .empty 64, settings := .default }
    let draws := Draws.ofSource fun _ => 0
    let host := Host.ofPictures "/pics"
    let refused := (croppedTwice.runOn setting draws).run (host.refusing "load_image_src")
    host.failing = none ∧ croppedTwice.IsFaceless ∧
      CutOff "load_image_src" host refused ((croppedTwice.runOn setting draws).run host) ∧
      refused.2.calls.toList.map Call.name = ["update_canvas_size", "save_image_src", "clear_canvas"] := by
  intro setting draws host refused
  have faceless : croppedTwice.IsFaceless := by simp [IsFaceless, croppedTwice]
  have three : refused.2.calls.toList.map Call.name = ["update_canvas_size", "save_image_src", "clear_canvas"] := by
    rw [show refused.2 = _ from runOn_eq_segments rfl]
    decide +kernel
  have eight : (((croppedTwice.runOn setting draws).run host).2.calls.toList.map Call.name).length = 8 := by
    rw [runOn_eq_segments rfl]
    decide +kernel
  refine ⟨rfl, faceless, ?_, three⟩
  refine (runOn_refusing croppedTwice setting draws "load_image_src" rfl faceless).resolve_left fun same => ?_
  have again : refused.2.calls = ((croppedTwice.runOn setting draws).run host).2.calls :=
    congrArg (fun ends => ends.2.calls) same
  rw [← again, three] at eight
  exact absurd eight (by decide)

end Script

end CanvasScript
