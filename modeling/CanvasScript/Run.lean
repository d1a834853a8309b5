import CanvasScript.Run.Perform
import CanvasScript.Script

/-!
# Runs

A run goes through the steps of a script from the first on. Every instruction it
comes to is visited: it is carried out, and it tells the next position. A run is
over behind the last step, at an `end` and at the first failure.
-/

namespace CanvasScript

open Json (Value)

/-- A failure, and at which entry. -/
structure RunError where
  index : Nat
  kind : Kind
  cause : EngineError

def RunError.message (e : RunError) : String := s!"Item {e.index}: \"{e.kind.key}\" failed: {e.cause.message}"

/-- How a run came to its end. -/
inductive RunOutcome where
  | completed
  /-- At an `end`. -/
  | ended (index : Nat)
  deriving DecidableEq

def RunOutcome.toJson : RunOutcome → Value
  | completed => .object [("outcome", .string "completed")]
  | ended index => .object [("outcome", .string "ended"), ("index", .int index)]

/-- A visit to an instruction: its step, and the loop active while it was carried out. -/
structure Visit where
  index : Nat
  frame : Option LoopFrame
  deriving DecidableEq

/-- All that is known when a run is over. -/
structure RunResult where
  outcome : Except RunError RunOutcome
  stage : Stage
  frame : Option LoopFrame
  visits : Array Visit

namespace Script

/-- The run from a position on, behind the visits made so far. -/
def runFrom (script : Script) (setting : Setting) (p : Position) (stage : Stage) (visits : Array Visit) :
    RunResult :=
  if inside : p.pointer < script.steps.length then
    match script.steps[p.pointer] with
    | .skip _ => script.runFrom setting p.next stage visits
    | .run instruction =>
      let spot : Spot := { index := p.pointer, frame := p.entered instruction }
      let visits := visits.push { index := p.pointer, frame := p.entered instruction }
      match (Stage.perform setting spot instruction).run stage with
      | (.error cause, stage) =>
        { outcome := .error { index := p.pointer, kind := instruction.kind, cause }
          stage, frame := p.frame, visits }
      | (.ok (), stage) =>
        match after : p.after? instruction with
        | some q => script.runFrom setting q stage visits
        | none => { outcome := .ok (.ended p.pointer), stage, frame := p.frame, visits }
  else { outcome := .ok .completed, stage, frame := p.frame, visits }
termination_by p.remaining script.steps.length
decreasing_by
  · exact Position.next_nearer inside
  · exact Position.after?_nearer inside after

/-- The run of a script. -/
def run (script : Script) (setting : Setting) (stage : Stage) : RunResult :=
  script.runFrom setting .start stage #[]

end Script

/-- What is told of a run that did not fail. -/
structure RunSummary where
  outcome : RunOutcome
  executed : Nat
  stage : Stage
  frame : Option LoopFrame

namespace RunSummary

def toJson (summary : RunSummary) : Value :=
  .object
    [("outcome", summary.outcome.toJson), ("instructionsExecuted", .int summary.executed),
      ("renders", .int summary.stage.renders),
      ("recoveries", .array (summary.stage.recoveries.toList.map RecoveryEvent.toJson)),
      ("state", summary.stage.stateJson summary.frame)]

end RunSummary

/-- The summary of a run, or why it failed. -/
def RunResult.summary (result : RunResult) : Except RunError RunSummary := do
  let outcome ← result.outcome
  return { outcome, executed := result.visits.size, stage := result.stage, frame := result.frame }

end CanvasScript
