import CanvasScript.Proofs.Run.Composition
import CanvasScript.Run

/-!
# Runs step by step

The ways in which a run from a position on can go (`Script.Runs`): it is over, passes over a
step, fails, goes on behind an instruction, or ends at one. They tell what `Script.runFrom`
computes (`Script.runs_runFrom`, `Runs.runFrom_eq`), so what holds of runs is shown by induction
on them. What every instruction keeps at its step, a run keeps (`Runs.within`): so a run only
ever adds to the log of its host (`Runs.adds`). What no instruction notices, a run does not notice
(`Runs.commutes`).
-/

namespace CanvasScript

namespace Position

/-- Where an instruction is carried out at a position. -/
def spot (p : Position) (instruction : Instruction) : Spot where
  index := p.pointer
  frame := p.entered instruction

def visit (p : Position) (instruction : Instruction) : Visit where
  index := p.pointer
  frame := p.entered instruction

end Position

namespace Script

/-- From a position on, behind the visits made so far, a run comes to a result. -/
inductive Runs (script : Script) (setting : Setting) : Position → Stage → Array Visit → RunResult → Prop where
  | behind {p : Position} {stage : Stage} {made : Array Visit} (behind : script.steps.length ≤ p.pointer) :
      Runs script setting p stage made { outcome := .ok .completed, stage, frame := p.frame, visits := made }
  | skip {p : Position} {stage : Stage} {made : Array Visit} {result : RunResult} {key : String}
      (step : script.steps[p.pointer]? = some (.skip key)) (later : Runs script setting p.next stage made result) :
      Runs script setting p stage made result
  | fail {p : Position} {stage stage' : Stage} {made : Array Visit} {instruction : Instruction} {cause : EngineError}
      (step : script.steps[p.pointer]? = some (.run instruction))
      (failed : (Stage.perform setting (p.spot instruction) instruction).run stage = (.error cause, stage')) :
      Runs script setting p stage made
        { outcome := .error { index := p.pointer, kind := instruction.kind, cause }, stage := stage', frame := p.frame
          visits := made.push (p.visit instruction) }
  | onward {p q : Position} {stage stage' : Stage} {made : Array Visit} {result : RunResult} {instruction : Instruction}
      (step : script.steps[p.pointer]? = some (.run instruction))
      (done : (Stage.perform setting (p.spot instruction) instruction).run stage = (.ok (), stage'))
      (after : p.after? instruction = some q)
      (later : Runs script setting q stage' (made.push (p.visit instruction)) result) :
      Runs script setting p stage made result
  | finish {p : Position} {stage stage' : Stage} {made : Array Visit} {instruction : Instruction}
      (step : script.steps[p.pointer]? = some (.run instruction))
      (done : (Stage.perform setting (p.spot instruction) instruction).run stage = (.ok (), stage'))
      (after : p.after? instruction = none) :
      Runs script setting p stage made
        { outcome := .ok (.ended p.pointer), stage := stage', frame := p.frame
          visits := made.push (p.visit instruction) }

variable {script : Script} {setting : Setting} {p : Position} {stage : Stage} {made : Array Visit} {result : RunResult}

/-- A run goes in one of these ways. -/
theorem runs_runFrom (script : Script) (setting : Setting) (p : Position) (stage : Stage) (made : Array Visit) :
    script.Runs setting p stage made (script.runFrom setting p stage made) := by
  fun_induction Script.runFrom script setting p stage made with
  | case1 p stage made inside key step ih => exact .skip (List.getElem?_eq_some_iff.2 ⟨inside, step⟩) ih
  | case2 p stage made inside instruction step spot made' cause stage' failed =>
    exact .fail (List.getElem?_eq_some_iff.2 ⟨inside, step⟩) failed
  | case3 p stage made inside instruction step spot made' stage' done q after ih =>
    exact .onward (List.getElem?_eq_some_iff.2 ⟨inside, step⟩) done after ih
  | case4 p stage made inside instruction step spot made' stage' done after =>
    exact .finish (List.getElem?_eq_some_iff.2 ⟨inside, step⟩) done after
  | case5 p stage made behind => exact .behind (Nat.not_lt.1 behind)

/-- What a run comes to is what is computed. -/
theorem Runs.runFrom_eq (runs : script.Runs setting p stage made result) :
    script.runFrom setting p stage made = result := by
  induction runs with
  | behind behind => rw [runFrom, dif_neg (Nat.not_lt.2 behind)]
  | skip step _ ih =>
    obtain ⟨inside, step⟩ := List.getElem?_eq_some_iff.1 step
    rw [runFrom, dif_pos inside, step]
    exact ih
  | fail step failed =>
    obtain ⟨inside, step⟩ := List.getElem?_eq_some_iff.1 step
    unfold Position.spot at failed
    rw [runFrom, dif_pos inside, step]
    dsimp only
    rw [failed]
    rfl
  | onward step done after _ ih =>
    obtain ⟨inside, step⟩ := List.getElem?_eq_some_iff.1 step
    unfold Position.spot at done
    rw [runFrom, dif_pos inside, step]
    dsimp only
    rw [done]
    dsimp only
    split
    · rename_i next same
      cases same.symm.trans after
      exact ih
    · rename_i none
      cases none.symm.trans after
  | finish step done ends =>
    obtain ⟨inside, step⟩ := List.getElem?_eq_some_iff.1 step
    unfold Position.spot at done
    rw [runFrom, dif_pos inside, step]
    dsimp only
    rw [done]
    dsimp only
    split
    · rename_i next same
      cases same.symm.trans ends
    · rfl

/-- What every instruction keeps at its step, a run keeps. -/
theorem Runs.within {R : Stage → Stage → Prop} [IsPreorder Stage R] (runs : script.Runs setting p stage made result)
    (each : ∀ spot instruction, script.steps[spot.index]? = some (.run instruction) →
      (Stage.perform setting spot instruction).Within R) : R stage result.stage := by
  induction runs with
  | behind => exact refl_of R _
  | skip _ _ ih => exact ih
  | fail step failed => exact (each _ _ step).of_run failed
  | onward step done _ _ ih => exact trans_of R ((each _ _ step).of_run done) ih
  | finish step done => exact (each _ _ step).of_run done

/-- A change of the stage that no instruction notices at its step, a run does not notice. -/
theorem Runs.commutes {change : Stage → Stage} (runs : script.Runs setting p stage made result)
    (each : ∀ spot instruction, script.steps[spot.index]? = some (.run instruction) →
      (Stage.perform setting spot instruction).Commutes (fun _ => True) change) :
    script.Runs setting p (change stage) made { result with stage := change result.stage } := by
  have unnoticed {p : Position} {stage : Stage} {instruction : Instruction} {outcome : Except EngineError Unit}
      {stage' : Stage} (step : script.steps[p.pointer]? = some (.run instruction))
      (run : (Stage.perform setting (p.spot instruction) instruction).run stage = (outcome, stage')) :
      (Stage.perform setting (p.spot instruction) instruction).run (change stage) = (outcome, change stage') := by
    rw [(each _ _ step stage trivial).1, run]
  induction runs with
  | behind behind => exact .behind behind
  | skip step _ ih => exact .skip step ih
  | fail step failed => exact .fail step (unnoticed step failed)
  | onward step done after _ ih => exact .onward step (unnoticed step done) after ih
  | finish step done ends => exact .finish step (unnoticed step done) ends

/-- A run adds to the log of its host. -/
theorem Runs.adds (runs : script.Runs setting p stage made result) :
    Host.Adds (fun _ => True) stage.host result.stage.host := by
  have kept : Stage.BetweenHosts (Host.Adds fun _ => True) stage result.stage :=
    runs.within fun spot instruction _ => (Stage.composed_perform setting spot instruction).adds
  exact kept

end Script

end CanvasScript
