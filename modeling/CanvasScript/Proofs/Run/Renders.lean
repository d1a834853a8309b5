import CanvasScript.Proofs.Run.OnHost
import CanvasScript.Proofs.Run.State
import CanvasScript.Proofs.Run.Trace

/-!
# What a run renders

Only a prompt renders, and right before it the canvas is given the size of what is rendered
(`Stage.renders_of_perform`). What a run renders with is what the instructions before have
left, from what the host starts with (`Script.runOn_renders`).
-/

namespace CanvasScript

/-- The call renders. -/
def Call.isRender : Call → Bool
  | render _ => true
  | _ => false

theorem Call.isRender_eq_false {call : Call} (other : call.name ≠ "render") : call.isRender = false := by
  cases call with
  | render request => exact absurd rfl other
  | _ => rfl

/-- What is added to a log is what is there since. -/
theorem Host.callsSince_eq {before after : Host} {made : List Call}
    (log : after.calls.toList = before.calls.toList ++ made) : before.callsSince after = made := by
  rw [callsSince, log, ← Array.length_toList, List.drop_left]

/-- The size of the canvas is recorded when it is given. -/
theorem Host.run_updateCanvasSize (configuration : Configuration) (host : Host) :
    (∃ e, (updateCanvasSize configuration).run host = (.error e, host)) ∨
      ∃ after, (updateCanvasSize configuration).run host = (.ok (), after) ∧
        after.calls = host.calls.push (.updateCanvasSize configuration.size) := by
  rcases run_record (.updateCanvasSize configuration.size) host with ⟨e, failed⟩ | recorded
  · exact .inl ⟨e, Attempt.run_bind_error failed _⟩
  · refine .inr ⟨_, Attempt.run_bind_ok recorded _, ?_⟩
    dsimp only
    split <;> rfl

namespace Stage

variable {setting : Setting} {spot : Spot} {instruction : Instruction} {s t : Stage}

/-- Nothing is rendered between two stages. -/
abbrev Quiet : Stage → Stage → Prop := BetweenHosts (Host.Adds (· ≠ "render"))

/-- An instruction that is no prompt renders nothing. -/
theorem Composed.quiet {i j : Nat} {x y : StageAction α} (composed : Composed instruction i j x y)
    (other : instruction.handleUse? ≠ some "render") : x.Within Quiet := by
  refine composed.within_host fun {_ name _} op use host => (op.within_adds host).mono ?_
  rintro _ rfl rfl
  exact other (use rfl)

/-- What any instruction may do renders nothing. -/
theorem quiet_of_note {x : StageAction α} {outcome : Except EngineError α} (done : x.run s = (outcome, t))
    (composed : Composed .note 0 0 x x) : Quiet s t :=
  (composed.quiet nofun).of_run done

/-- A call that is made is pushed on the log, and one that fails is not. -/
theorem calls_of_record {call : Call} {outcome : Except EngineError Unit}
    (done : (onHost (Host.record call)).run s = (outcome, t)) :
    t = { s with host := t.host } ∧
      (outcome = .ok () ∧ t.host.calls = s.host.calls.push call ∨ (∃ e, outcome = .error e) ∧ t.host = s.host) := by
  rw [run_onHost] at done
  obtain ⟨rfl, rfl⟩ := Prod.mk.inj done
  refine ⟨rfl, ?_⟩
  rcases Host.run_record call s.host with ⟨e, failed⟩ | recorded
  · rw [failed]
    exact .inr ⟨⟨_, rfl⟩, rfl⟩
  · rw [recorded]
    exact .inl ⟨rfl, rfl⟩

/-- A prompt that fails has rendered nothing. -/
theorem quiet_of_render {text : String} {e : EngineError} (failed : (render setting text).run s = (.error e, t)) :
    Quiet s t := by
  rcases Attempt.run_bind_eq_error_iff.1 failed with resolving | ⟨prompt, u, resolved, failed⟩
  · exact quiet_of_note resolving (.resolve _)
  have first : Quiet s u := quiet_of_note resolved (.resolve _)
  rcases Attempt.run_bind_eq_error_iff.1 failed with updating | ⟨_, v, updated, failed⟩
  · exact trans_of Quiet first (quiet_of_note updating composed_updateCanvasSize)
  have second : Quiet u v := quiet_of_note updated composed_updateCanvasSize
  rcases Attempt.run_bind_eq_error_iff.1 failed with reading | ⟨request, w, read, failed⟩
  · cases reading
  cases read
  rcases Attempt.run_bind_eq_error_iff.1 failed with rendering | ⟨_, x, rendered, counting⟩
  · rcases (calls_of_record rendering).2 with ⟨succeeded, -⟩ | ⟨-, same⟩
    · cases succeeded
    · have last : Quiet v t := by
        rw [Quiet, BetweenHosts, same]
        exact refl_of _ v.host
      exact trans_of Quiet (trans_of Quiet first second) last
  · cases counting

/-- A prompt that succeeds gives the canvas its size and renders what is at the stage. -/
theorem calls_of_render {text : String} (done : (render setting text).run s = (.ok (), t)) :
    ∃ prompt, t.host.calls.toList =
        s.host.calls.toList ++ [.updateCanvasSize s.configuration.size, .render (s.request prompt)] ∧
      t.renders = s.renders + 1 := by
  obtain ⟨prompt, u, resolved, rest⟩ := Attempt.run_bind_eq_ok_iff.1 done
  obtain ⟨-, rfl⟩ := draws_of_onDraws resolved
  obtain ⟨_, v, updated, rest⟩ := Attempt.run_bind_eq_ok_iff.1 rest
  obtain ⟨request, w, read, rest⟩ := Attempt.run_bind_eq_ok_iff.1 rest
  obtain ⟨_, x, rendered, counted⟩ := Attempt.run_bind_eq_ok_iff.1 rest
  obtain ⟨configuration, y, got, sized⟩ := Attempt.run_bind_eq_ok_iff.1 updated
  cases got
  cases read
  cases counted
  obtain ⟨given, resized⟩ := host_of_onHost sized
  have sized : v.host.calls = s.host.calls.push (.updateCanvasSize s.configuration.size) := by
    rcases Host.run_updateCanvasSize s.configuration s.host with ⟨e, failed⟩ | ⟨after, ran, pushed⟩
    · cases failed.symm.trans given
    · rw [← (Prod.mk.inj (ran.symm.trans given)).2]
      exact pushed
  have requested : v.request prompt = s.request prompt := by
    rw [resized]
    rfl
  obtain ⟨kept, ⟨-, log⟩ | ⟨⟨e, failed⟩, -⟩⟩ := calls_of_record rendered
  · refine ⟨prompt, ?_, ?_⟩
    · have log : x.host.calls = v.host.calls.push (.render (v.request prompt)) := log
      show x.host.calls.toList = _
      rw [log, sized, requested]
      simp
    · show x.renders + 1 = s.renders + 1
      rw [kept, resized]
  · cases failed

/-- What an instruction renders: only a prompt does, and it gives the canvas the size of
what is rendered right before. -/
structure Renders (instruction : Instruction) (s t : Stage) : Prop where
  log : t.host.calls.toList = s.host.calls.toList ++ s.host.callsSince t.host
  only : ∀ before request after, s.host.callsSince t.host = before ++ .render request :: after →
    instruction.kind = .prompt ∧ before = [.updateCanvasSize request.configuration.size] ∧
      ∃ prompt, request = s.request prompt

/-- Where nothing is rendered, nothing is to be shown of renders. -/
theorem Renders.of_quiet (quiet : Quiet s t) :
    Renders instruction s t ∧ (s.host.callsSince t.host).countP Call.isRender = 0 := by
  obtain ⟨made, log, other⟩ := quiet.calls
  have since := Host.callsSince_eq log
  refine ⟨⟨since ▸ log, fun before request after split => ?_⟩, ?_⟩
  · rw [since] at split
    have mem : .render request ∈ made := split ▸ List.mem_append_right before List.mem_cons_self
    exact absurd rfl (other _ mem).1
  · rw [since, List.countP_eq_zero]
    exact fun call mem => Bool.not_eq_true _ ▸ Call.isRender_eq_false (other call mem).1

/-- Only a prompt gives something to be rendered. -/
theorem renders_iff : instruction.handleUse? = some "render" ↔ ∃ text, instruction = .prompt text := by
  cases instruction <;> simp [Instruction.handleUse?]

/-- Every instruction renders as it must, and what it renders is counted if it succeeds. -/
theorem renders_of_perform {outcome : Except EngineError Unit}
    (run : (perform setting spot instruction).run s = (outcome, t)) :
    Renders instruction s t ∧
      (outcome = .ok () → t.renders = s.renders + (s.host.callsSince t.host).countP Call.isRender) := by
  by_cases prompts : instruction.handleUse? = some "render"
  · obtain ⟨text, rfl⟩ := renders_iff.1 prompts
    cases outcome with
    | error e => exact ⟨(Renders.of_quiet (quiet_of_render run)).1, nofun⟩
    | ok _ =>
      obtain ⟨prompt, log, counted⟩ := calls_of_render run
      have since := Host.callsSince_eq log
      refine ⟨⟨since ▸ log, fun before request after split => ?_⟩, fun _ => ?_⟩
      · rw [since] at split
        rcases before with _ | ⟨first, _ | ⟨second, before⟩⟩
        · cases split
        · cases split
          exact ⟨rfl, rfl, prompt, rfl⟩
        · simp at split
      · rw [since, counted]
        rfl
  · have quiet := ((composed_perform setting spot instruction).quiet prompts).of_run run
    have keeps := keeps_of_perform run
    obtain ⟨renders, none⟩ : Renders instruction s t ∧ _ := Renders.of_quiet quiet
    exact ⟨renders, fun _ => by rw [none, keeps.renders prompts, Nat.add_zero]⟩

end Stage

/-- An instruction that is carried out in a run, and the stages before and behind it. -/
structure Dispatch where
  visit : Visit
  instruction : Instruction
  before : Stage
  after : Stage

namespace Dispatch

/-- What the host is asked for meanwhile. -/
def calls (d : Dispatch) : List Call := d.before.host.callsSince d.after.host

/-- The state behind an instruction that is carried out, as told by its kind. -/
def affect (setting : Setting) (state : RunState) (d : Dispatch) : RunState :=
  d.instruction.affect setting d.visit.index d.before.host d.before.draws state

/-- The state behind some instructions. -/
def affectAll (setting : Setting) (state : RunState) (dispatches : List Dispatch) : RunState :=
  dispatches.foldl (affect setting) state

/-- An instruction is a step of the script, renders with the state that there is, and the
loop that is active meanwhile is that of the state before and behind it, but for a `loop`
and a `loopEnd`. -/
structure Faithful (script : Script) (setting : Setting) (state : RunState) (d : Dispatch) : Prop where
  step : script.steps[d.visit.index]? = some (.run d.instruction)
  renders : ∀ before request after, d.calls = before ++ .render request :: after →
    d.instruction.kind = .prompt ∧ before = [.updateCanvasSize request.configuration.size] ∧
      request.configuration = state.configuration ∧ request.negativePrompt = state.negativePrompt ∧
      request.mask = state.mask
  entered : d.instruction.kind ≠ .loop → d.visit.frame = state.frame
  left : d.instruction.kind ≠ .loopEnd → d.visit.frame = (d.affect setting state).frame

end Dispatch

namespace Position

variable {p q : Position} {instruction : Instruction}

/-- Only a `loop` enters a loop. -/
theorem entered_of_ne_loop (other : instruction.kind ≠ .loop) : p.entered instruction = p.frame := by
  cases instruction with
  | loop spec => exact absurd rfl other
  | _ => rfl

/-- The loop that is entered is the one that is active behind an instruction, unless it ends there. -/
theorem entered_eq_frameAfter (other : instruction.kind ≠ .loopEnd) :
    p.entered instruction = instruction.frameAfter p.pointer p.frame := by
  cases instruction with
  | loopEnd => exact absurd rfl other
  | loop spec =>
    unfold entered Instruction.frameAfter
    cases p.frame <;> rfl
  | _ => rfl

/-- The loop that is active at the next position is the one behind the instruction. -/
theorem frame_eq_frameAfter (after : p.after? instruction = some q) :
    q.frame = instruction.frameAfter p.pointer p.frame := by
  cases instruction with
  | finish => cases after
  | loop spec =>
    cases after
    exact p.entered_eq_frameAfter nofun
  | loopEnd =>
    cases after
    unfold endLoop Instruction.frameAfter
    cases here : p.frame with
    | none => exact here
    | some frame =>
      by_cases more : frame.advance.continues = true <;> simp [more, Option.filter]
  | _ =>
    cases after
    rfl

end Position

namespace Script

/-- The instructions that are carried out in visits made one after the other. -/
def dispatches (script : Script) (setting : Setting) : List Visit → Stage → List Dispatch
  | [], _ => []
  | visit :: later, stage =>
    match script.steps[visit.index]? with
    | some (.run instruction) =>
      let after := ((Stage.perform setting { index := visit.index, frame := visit.frame } instruction).run stage).2
      { visit, instruction, before := stage, after } :: script.dispatches setting later after
    | _ => script.dispatches setting later stage

/-- What comes of a run is what the instructions carried out in it make of a state and a stage. -/
structure Traced (script : Script) (setting : Setting) (state : RunState) (stage : Stage) (result : RunResult)
    (dispatches : List Dispatch) : Prop where
  calls : result.stage.host.calls.toList = stage.host.calls.toList ++ dispatches.flatMap Dispatch.calls
  faithful : ∀ i (d : Dispatch), dispatches[i]? = some d →
    d.Faithful script setting (Dispatch.affectAll setting state (dispatches.take i))
  renders : result.outcome.isOk = true →
    result.stage.renders = stage.renders + (dispatches.flatMap Dispatch.calls).countP Call.isRender
  state : result.outcome.isOk = true →
    result.stage.state result.frame = Dispatch.affectAll setting state dispatches

variable {script : Script} {setting : Setting} {stage stage' : Stage} {result : RunResult}

theorem dispatches_cons (visit : Visit) {instruction : Instruction} {outcome : Except EngineError Unit}
    (step : script.steps[visit.index]? = some (.run instruction))
    (run : (Stage.perform setting { index := visit.index, frame := visit.frame } instruction).run stage =
      (outcome, stage')) (later : List Visit) :
    script.dispatches setting (visit :: later) stage =
      { visit, instruction, before := stage, after := stage' } :: script.dispatches setting later stage' := by
  simp [dispatches, step, run]

/-- A run that is over has nothing to carry out. -/
theorem Traced.nil {state : RunState} (ended : result.stage = stage)
    (last : result.outcome.isOk = true → result.stage.state result.frame = state) :
    script.Traced setting state stage result [] where
  calls := by simp [ended]
  faithful _ _ := nofun
  renders _ := by simp [ended]
  state := last

/-- An instruction is carried out as it must before others are. -/
theorem Traced.cons {d : Dispatch} {state : RunState} {later : List Dispatch}
    (here : d.Faithful script setting state) (log : d.after.host.calls.toList = d.before.host.calls.toList ++ d.calls)
    (counted : result.outcome.isOk = true → d.after.renders = d.before.renders + d.calls.countP Call.isRender)
    (behind : script.Traced setting (d.affect setting state) d.after result later) :
    script.Traced setting state d.before result (d :: later) where
  calls := by rw [behind.calls, log, List.flatMap_cons, List.append_assoc]
  faithful i other there := by
    cases i with
    | zero =>
      cases there
      exact here
    | succ i => exact behind.faithful i other there
  renders ok := by rw [behind.renders ok, counted ok, List.flatMap_cons, List.countP_append, Nat.add_assoc]
  state ok := behind.state ok

/-- A failure is the last of what is carried out. -/
theorem Traced.of_error {d : Dispatch} {state : RunState} {e : RunError} (failed : result.outcome = .error e)
    (ended : result.stage = d.after) (here : d.Faithful script setting state)
    (log : d.after.host.calls.toList = d.before.host.calls.toList ++ d.calls) :
    script.Traced setting state d.before result [d] := by
  have never (ok : result.outcome.isOk = true) : False := by
    rw [failed] at ok
    cases ok
  exact .cons here log (fun ok => (never ok).elim) (.nil ended fun ok => (never ok).elim)

/-- At a position an instruction is carried out as it must. -/
theorem faithful_of_perform {p : Position} {instruction : Instruction} {outcome : Except EngineError Unit}
    (step : script.steps[p.pointer]? = some (.run instruction))
    (run : (Stage.perform setting (p.spot instruction) instruction).run stage = (outcome, stage')) :
    Dispatch.Faithful script setting (stage.state p.frame)
      { visit := p.visit instruction, instruction, before := stage, after := stage' } where
  step := step
  renders before request after split := by
    obtain ⟨kind, sized, prompt, rfl⟩ := (Stage.renders_of_perform run).1.only before request after split
    exact ⟨kind, sized, rfl, rfl, rfl⟩
  entered other := p.entered_of_ne_loop other
  left other := p.entered_eq_frameAfter other

/-- From any position on the instructions carried out make of the state what comes of the run. -/
theorem Runs.traced {p : Position} {made : Array Visit} (runs : script.Runs setting p stage made result) :
    ∃ visits, result.visits.toList = made.toList ++ visits ∧
      script.Traced setting (stage.state p.frame) stage result (script.dispatches setting visits stage) := by
  induction runs with
  | behind => exact ⟨[], (List.append_nil _).symm, .nil rfl fun _ => rfl⟩
  | skip _ _ ih => exact ih
  | @fail p _ _ _ instruction _ step failed =>
    refine ⟨[p.visit instruction], Array.toList_push, ?_⟩
    rw [dispatches_cons (p.visit instruction) step failed]
    exact .of_error rfl rfl (faithful_of_perform step failed) (Stage.renders_of_perform failed).1.log
  | @onward p q stage stage' made _ instruction step done after _ ih =>
    obtain ⟨renders, counted⟩ := Stage.renders_of_perform done
    obtain ⟨visits, all, traced⟩ := ih
    refine ⟨p.visit instruction :: visits, ?_, ?_⟩
    · rw [all, Array.toList_push, List.append_assoc, List.singleton_append]
    · have state : stage'.state (instruction.frameAfter p.pointer p.frame) =
          instruction.affect setting p.pointer stage.host stage.draws (stage.state p.frame) :=
        Stage.state_of_perform done p.frame
      rw [Position.frame_eq_frameAfter after, state] at traced
      rw [dispatches_cons (p.visit instruction) step done]
      exact .cons (faithful_of_perform step done) renders.log (fun _ => counted rfl) traced
  | @finish p _ _ _ instruction step done ends =>
    obtain ⟨renders, counted⟩ := Stage.renders_of_perform done
    refine ⟨[p.visit instruction], Array.toList_push, ?_⟩
    rw [dispatches_cons (p.visit instruction) step done]
    refine .cons (faithful_of_perform step done) renders.log (fun _ => counted rfl) (.nil rfl fun _ => ?_)
    have state := Stage.state_of_perform done p.frame
    cases instruction with
    | finish => exact state
    | _ => cases ends

end Script

/-- What stands in lists put one after the other stands in one of them, behind those before it. -/
theorem exists_of_flatMap_eq {l : List α} {f : α → List β} {before after : List β} {b : β}
    (split : l.flatMap f = before ++ b :: after) :
    ∃ i a pre post, l[i]? = some a ∧ f a = pre ++ b :: post ∧ before = (l.take i).flatMap f ++ pre := by
  induction l generalizing before with
  | nil => simp at split
  | cons a l ih =>
    rw [List.flatMap_cons] at split
    rcases List.append_eq_append_iff.1 split with ⟨rest, rfl, later⟩ | ⟨rest, here, later⟩
    · obtain ⟨i, other, pre, post, there, inside, rfl⟩ := ih later
      exact ⟨i + 1, other, pre, post, there, inside, by simp⟩
    · cases rest with
      | nil =>
        have behind : l.flatMap f = [] ++ b :: after := later.symm
        obtain ⟨i, other, pre, post, there, inside, start⟩ := ih behind
        refine ⟨i + 1, other, pre, post, there, inside, ?_⟩
        rw [List.take_succ_cons, List.flatMap_cons, List.append_assoc, ← start, List.append_nil, here, List.append_nil]
      | cons first rest =>
        obtain ⟨rfl, -⟩ := List.cons.inj later
        exact ⟨0, a, before, rest, rfl, here, rfl⟩

/-- A render that is traced is that of a prompt, with the state before it. -/
theorem Script.Traced.of_render {script : Script} {setting : Setting} {state : RunState} {stage : Stage}
    {result : RunResult} {dispatches : List Dispatch} (traced : script.Traced setting state stage result dispatches)
    {before after : List Call} {request : RenderRequest}
    (split : dispatches.flatMap Dispatch.calls = before ++ .render request :: after) :
    ∃ i d, dispatches[i]? = some d ∧ script.steps[d.visit.index]? = some (.run d.instruction) ∧
      d.instruction.kind = .prompt ∧
      before = (dispatches.take i).flatMap Dispatch.calls ++ [.updateCanvasSize request.configuration.size] ∧
      request.configuration = (Dispatch.affectAll setting state (dispatches.take i)).configuration ∧
      request.negativePrompt = (Dispatch.affectAll setting state (dispatches.take i)).negativePrompt ∧
      request.mask = (Dispatch.affectAll setting state (dispatches.take i)).mask := by
  obtain ⟨i, d, pre, post, there, inside, rfl⟩ := exists_of_flatMap_eq split
  have faithful := traced.faithful i d there
  obtain ⟨kind, sized, configuration, negativePrompt, mask⟩ := faithful.renders pre request post inside
  exact ⟨i, d, there, faithful.step, kind, by rw [sized], configuration, negativePrompt, mask⟩

theorem Dispatch.affectAll_take_succ (setting : Setting) (state : RunState) {dispatches : List Dispatch} {i : Nat}
    {d : Dispatch} (there : dispatches[i]? = some d) :
    affectAll setting state (dispatches.take (i + 1)) = d.affect setting (affectAll setting state (dispatches.take i)) := by
  rw [affectAll, List.take_add_one, there, List.foldl_append]
  rfl

/-- The loop that is active while an instruction is carried out is traced. -/
theorem Script.Traced.of_frame {script : Script} {setting : Setting} {state : RunState} {stage : Stage}
    {result : RunResult} {dispatches : List Dispatch} (traced : script.Traced setting state stage result dispatches)
    {i : Nat} {d : Dispatch} (there : dispatches[i]? = some d) :
    (d.instruction.kind ≠ .loop → d.visit.frame = (Dispatch.affectAll setting state (dispatches.take i)).frame) ∧
      (d.instruction.kind ≠ .loopEnd →
        d.visit.frame = (Dispatch.affectAll setting state (dispatches.take (i + 1))).frame) := by
  have faithful := traced.faithful i d there
  rw [Dispatch.affectAll_take_succ setting state there]
  exact ⟨faithful.entered, faithful.left⟩

/-- An instruction that is carried out puts its values into the configuration. -/
theorem Dispatch.get?_affectAll_succ (setting : Setting) (state : RunState) {dispatches : List Dispatch} {i : Nat}
    {d : Dispatch} (there : dispatches[i]? = some d) (field : String) :
    (affectAll setting state (dispatches.take (i + 1))).configuration.get? field =
      (Json.Fields.get? field (d.instruction.puts setting d.before.host d.before.draws).reverse).or
        ((affectAll setting state (dispatches.take i)).configuration.get? field) := by
  rw [affectAll_take_succ setting state there]
  exact d.instruction.get?_configurationAfter setting d.before.host d.before.draws _ field

/-- The state of a run that starts on a host. -/
def Host.state (host : Host) : RunState where
  configuration := host.configuration
  negativePrompt := host.negativePrompt
  mask := none
  frame := none

namespace Script

/-- The instructions that are carried out in a run on a host. -/
def dispatchesOn (script : Script) (setting : Setting) (draws : Draws) (host : Host) : List Dispatch :=
  match Stage.open? host draws with
  | .error _ => []
  | .ok stage => script.dispatches setting (script.run setting stage).visits.toList stage

/-- **What is rendered is what the instructions before have left.** A render is the call of a
prompt, right behind the one that gives the canvas the size of its configuration. Its
configuration, negative prompt and mask are those of the state that the instructions before
make of what the host starts with, each as its kind tells. The active loop is the one of
that state, which only a `loop` and a `loopEnd` change, and an instruction changes the fields of
the configuration that it puts something into. A run that does not fail counts its renders, and
ends with the state that all of its instructions make. -/
theorem runOn_renders (script : Script) (setting : Setting) (draws : Draws) (host : Host) :
    let ends := (script.runOn setting draws).run host
    let dispatches := script.dispatchesOn setting draws host
    let state (i : Nat) := Dispatch.affectAll setting host.state (dispatches.take i)
    ∃ made, ends.2.calls.toList = host.calls.toList ++ made ∧
      (∀ before request after, made = before ++ .render request :: after →
        ∃ i d, dispatches[i]? = some d ∧ script.steps[d.visit.index]? = some (.run d.instruction) ∧
          d.instruction.kind = .prompt ∧
          before = (dispatches.take i).flatMap Dispatch.calls ++ [.updateCanvasSize request.configuration.size] ∧
          request.configuration = (state i).configuration ∧ request.negativePrompt = (state i).negativePrompt ∧
          request.mask = (state i).mask) ∧
      (∀ i (d : Dispatch), dispatches[i]? = some d →
        (d.instruction.kind ≠ .loop → d.visit.frame = (state i).frame) ∧
          (d.instruction.kind ≠ .loopEnd → d.visit.frame = (state (i + 1)).frame) ∧
          ∀ field, (state (i + 1)).configuration.get? field =
            (Json.Fields.get? field (d.instruction.puts setting d.before.host d.before.draws).reverse).or
              ((state i).configuration.get? field)) ∧
      ∀ summary, ends.1 = .ok summary →
        summary.stage.renders = made.countP Call.isRender ∧
          summary.stage.state summary.frame = Dispatch.affectAll setting host.state dispatches := by
  intro ends dispatches state
  cases opened : Stage.open? host draws with
  | error e =>
    have none : dispatches = [] := by
      simp only [dispatches, dispatchesOn, opened]
    have failed : ends = (.error (.host e), host) := runOn_of_error opened
    rw [none, failed]
    refine ⟨[], (List.append_nil _).symm, fun before request after split => ?_, fun i d there => ?_,
      fun summary summed => ?_⟩
    · simp at split
    · simp at there
    · cases summed
  | ok stage =>
    obtain rfl := Stage.eq_of_open? opened
    have traced :
        script.Traced setting host.state (host.stage draws) (script.run setting (host.stage draws)) dispatches := by
      obtain ⟨visits, all, traced⟩ := (script.runs_runFrom setting .start (host.stage draws) #[]).traced
      have visited : (script.run setting (host.stage draws)).visits.toList = visits := all
      have same : dispatches = script.dispatches setting visits (host.stage draws) := by
        simp only [dispatches, dispatchesOn, opened, visited]
      rw [same]
      exact traced
    have log : ends.2 = (script.run setting (host.stage draws)).stage.host := congrArg Prod.snd (runOn_of_ok opened)
    refine ⟨dispatches.flatMap Dispatch.calls, ?_, fun before request after split => traced.of_render split,
      fun i d there => ?_, fun summary summed => ?_⟩
    · rw [log]
      exact traced.calls
    · obtain ⟨entered, left⟩ := traced.of_frame there
      exact ⟨entered, left, Dispatch.get?_affectAll_succ setting host.state there⟩
    · have summed := summary_of_runOn opened summed
      obtain ⟨ending, outcome, rfl⟩ := RunResult.summary_eq_ok_iff.1 summed
      have ok : (script.run setting (host.stage draws)).outcome.isOk = true := outcome ▸ rfl
      rw [traced.renders ok]
      exact ⟨Nat.zero_add _, traced.state ok⟩

/-- Two renders in a loop, with a mask and a number of frames. -/
def renderedTwice : Script where
  steps :=
    [.run .maskBackground, .run (.frames (.int 5)), .run (.loop { count := some (.ofNat 2), start := none }),
      .run (.prompt "a hat"), .run .loopEnd]

/-- Both renders are counted, and the mask that they have is left. -/
theorem runOn_renders_renderedTwice :
    let setting : Setting := { resolver := Settings.default.resolver .empty 64, settings := .default }
    let draws := Draws.ofSource fun _ => 0
    let host := Host.ofPictures "/pics"
    let ends := (renderedTwice.runOn setting draws).run host
    ends.2.calls.toList.map Call.name =
        ["background_mask", "update_canvas_size", "render", "update_canvas_size", "render"] ∧
      ∃ summary, ends.1 = .ok summary ∧ summary.stage.renders = 2 ∧
        summary.stage.state summary.frame =
          Dispatch.affectAll setting host.state (renderedTwice.dispatchesOn setting draws host) := by
  intro setting draws host ends
  have opened : Stage.open? host draws = .ok (host.stage draws) := rfl
  have log : ends.2 = _ := runOn_eq_segments opened
  have succeeds : (renderedTwice.run setting (host.stage draws)).outcome.isOk = true := by
    rw [show (renderedTwice.run setting (host.stage draws)).outcome = _ from
      congrArg Course.outcome (course_run_eq_segments renderedTwice setting _)]
    decide +kernel
  have names : ends.2.calls.toList.map Call.name =
      ["background_mask", "update_canvas_size", "render", "update_canvas_size", "render"] := by
    rw [log]
    decide +kernel
  have two : ends.2.calls.toList.countP Call.isRender = 2 := by
    rw [log]
    decide +kernel
  obtain ⟨summary, summed⟩ := RunResult.exists_summary succeeds
  have told : ends.1 = .ok summary := by
    rw [show ends = _ from runOn_of_ok opened, summed]
    rfl
  obtain ⟨made, added, -, -, last⟩ := runOn_renders renderedTwice setting draws host
  obtain ⟨renders, state⟩ := last summary told
  have all : ends.2.calls.toList = made := added.trans (List.nil_append made)
  exact ⟨names, summary, told, by rw [renders, ← all, two], state⟩

end Script

end CanvasScript
