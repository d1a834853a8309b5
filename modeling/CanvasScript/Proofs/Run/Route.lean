import CanvasScript.Proofs.Run.Itinerary

/-!
# Routes

The route of a script from a position is where the pointer goes when nothing fails
and an `end` is passed. It depends on the steps alone, and every run follows it up
to an `end` or a failure (`course_runFrom`).
-/

namespace CanvasScript

namespace Instruction

theorem kind_eq_loop_iff {instruction : Instruction} :
    instruction.kind = .loop ↔ ∃ spec, instruction = .loop spec := by
  cases instruction <;> simp [kind]

theorem kind_eq_loopEnd_iff {instruction : Instruction} :
    instruction.kind = .loopEnd ↔ instruction = .loopEnd := by
  cases instruction <;> simp [kind]

end Instruction

namespace Position

/-- The position behind an instruction, an `end` being passed. -/
def beyond (p : Position) (instruction : Instruction) : Position := (p.after? instruction).getD p.next

theorem beyond_nearer {length : Nat} {p : Position} (h : p.pointer < length) (instruction : Instruction) :
    (p.beyond instruction).Nearer length p := by
  unfold beyond
  cases after : p.after? instruction with
  | none => exact next_nearer h
  | some q => exact after?_nearer h after

/-- The position at a step outside of loops. -/
def outside (pointer : Nat) : Position := { pointer, frame := none, marker_le := by simp }

/-- Inside a loop no other starts. -/
theorem entered_of_active {p : Position} {frame : LoopFrame} (active : p.frame = some frame)
    (instruction : Instruction) : p.entered instruction = some frame := by
  unfold entered
  rw [active]
  cases instruction <;> rfl

/-- Inside a loop all but its end lead to the next step. -/
theorem beyond_of_active {p : Position} {frame : LoopFrame} (active : p.frame = some frame)
    {instruction : Instruction} (inner : instruction.kind ≠ .loopEnd) : p.beyond instruction = p.next := by
  cases instruction with
  | loopEnd => exact absurd rfl inner
  | loop spec => simp [beyond, after?, enterLoop, next, entered_of_active active, active]
  | _ => rfl

/-- Outside of loops all but a `loop` lead to the next step and stay outside. -/
theorem beyond_outside (pointer : Nat) {instruction : Instruction} (h : instruction.kind ≠ .loop) :
    (outside pointer).beyond instruction = outside (pointer + 1) := by
  cases instruction with
  | loop spec => exact absurd rfl h
  | _ => rfl

theorem entered_outside (pointer : Nat) {instruction : Instruction} (h : instruction.kind ≠ .loop) :
    (outside pointer).entered instruction = none := by
  cases instruction with
  | loop spec => exact absurd rfl h
  | _ => rfl

theorem after?_eq_none_iff {p : Position} {instruction : Instruction} :
    p.after? instruction = none ↔ instruction.kind = .finish := by
  cases instruction <;> simp [after?, Instruction.kind]

end Position

/-- The position at a step of a block in a pass. -/
def Block.position (block : Block) (pointer : Nat) (h : block.marker ≤ pointer) (counter : Nat) : Position where
  pointer
  frame := some (block.frame counter)
  marker_le := by
    rintro _ ⟨⟩
    exact h

namespace Script

/-- The visits from a position on when nothing fails and an `end` is passed. -/
def route (script : Script) (p : Position) : List Visit :=
  if inside : p.pointer < script.steps.length then
    match script.steps[p.pointer] with
    | .skip _ => script.route p.next
    | .run instruction =>
      { index := p.pointer, frame := p.entered instruction } :: script.route (p.beyond instruction)
  else []
termination_by p.remaining script.steps.length
decreasing_by
  · exact Position.next_nearer inside
  · exact Position.beyond_nearer inside instruction

variable {script : Script} {setting : Setting}

theorem route_of_skip {p : Position} {key : String} {inside : p.pointer < script.steps.length}
    (step : script.steps[p.pointer] = .skip key) : script.route p = script.route p.next := by
  rw [route, dif_pos inside, step]

theorem route_of_run {p : Position} {instruction : Instruction} {inside : p.pointer < script.steps.length}
    (step : script.steps[p.pointer] = .run instruction) :
    script.route p =
      { index := p.pointer, frame := p.entered instruction } :: script.route (p.beyond instruction) := by
  rw [route, dif_pos inside, step]

theorem route_of_end {p : Position} (behind : ¬ p.pointer < script.steps.length) : script.route p = [] := by
  rw [route, dif_neg behind]

/-- A run follows its route, behind the visits made so far. -/
theorem course_runFrom (p : Position) (stage : Stage) (made : Array Visit) :
    (script.runFrom setting p stage made).course =
      (script.follow setting (script.route p) stage).behind made.toList := by
  fun_induction Script.runFrom script setting p stage made with
  | case1 p stage made inside key step ih => rw [ih, route_of_skip step]
  | case2 p stage made inside instruction step spot made' cause stage' failed =>
    rw [route_of_run step, follow_of_error { index := p.pointer, frame := p.entered instruction }
      (List.getElem?_eq_some_iff.2 ⟨inside, step⟩) failed]
    simp [RunResult.course, Course.behind, made']
  | case3 p stage made inside instruction step spot made' stage' done q after ih =>
    have more : instruction.kind ≠ .finish := fun finish => by
      rw [Position.after?_eq_none_iff.2 finish] at after
      cases after
    have onward : p.beyond instruction = q := by simp [Position.beyond, after]
    rw [ih, route_of_run step, onward, follow_of_ok { index := p.pointer, frame := p.entered instruction }
      (List.getElem?_eq_some_iff.2 ⟨inside, step⟩) done more,
      ← Course.behind_append]
    simp [made']
  | case4 p stage made inside instruction step spot made' stage' done after =>
    have finish := Position.after?_eq_none_iff.1 after
    rw [route_of_run step, follow_of_finish { index := p.pointer, frame := p.entered instruction }
      (List.getElem?_eq_some_iff.2 ⟨inside, step⟩) done finish]
    simp [RunResult.course, Course.behind, made']
  | case5 p stage made behind =>
    rw [route_of_end behind]
    simp [RunResult.course, Course.behind, follow]

/-- The course of a run is that of its route. -/
theorem course_run (script : Script) (setting : Setting) (stage : Stage) :
    (script.run setting stage).course = script.follow setting (script.route .start) stage :=
  course_runFrom .start stage #[]

/-- A route visits instructions only. -/
theorem isVisitable_of_mem_route (p : Position) : ∀ visit ∈ script.route p, script.IsVisitable visit := by
  fun_induction script.route p with
  | case1 p inside key step ih => exact ih
  | case2 p inside instruction step ih =>
    intro visit mem
    rcases List.mem_cons.1 mem with rfl | later
    · exact ⟨instruction, List.getElem?_eq_some_iff.2 ⟨inside, step⟩⟩
    · exact ih visit later
  | case3 => nofun

end Script

end CanvasScript
