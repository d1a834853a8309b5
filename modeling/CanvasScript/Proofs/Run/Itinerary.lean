import CanvasScript.Proofs.Run.Rounds
import CanvasScript.Run

/-!
# Itineraries

What a script visits can be read off its steps from left to right, without a run.
A `loop` outside of a block opens one, and the next `loopEnd` closes it; all else
between them is passed through like any other step. The steps of a closed block
are visited in as many passes as its loop asks for, all others once
(`Script.itinerary`). A run follows its itinerary up to an `end` or a failure
(`Script.follow`).
-/

namespace CanvasScript

/-- A stretch of steps from a `loop` on. -/
structure Block where
  marker : Nat
  spec : LoopSpec
  /-- The steps that are visited in a pass, in order. -/
  members : List Nat

namespace Block

/-- The block with another step. -/
def extend (block : Block) (index : Nat) : Block := { block with members := block.members ++ [index] }

/-- The loop in a pass of the block, `counter` others being done. -/
def frame (block : Block) (counter : Nat) : LoopFrame :=
  { LoopFrame.start block.marker block.spec with counter }

/-- The visits of a pass. -/
def pass (block : Block) (counter : Nat) : List Visit :=
  block.members.map fun index => { index, frame := some (block.frame counter) }

theorem pass_extend (block : Block) (index counter : Nat) :
    (block.extend index).pass counter =
      block.pass counter ++ [{ index, frame := some (block.frame counter) }] := by
  simp [pass, extend, frame]

end Block

/-- A part of a script that is visited as a whole. -/
inductive Segment where
  /-- A step outside of blocks. -/
  | single (index : Nat)
  | closed (block : Block)
  /-- A block to which no end was found. -/
  | unclosed (block : Block)

/-- The visits of a segment. -/
def Segment.visits : Segment → List Visit
  | single index => [{ index, frame := none }]
  | closed block => (List.range block.spec.rounds).flatMap block.pass
  | unclosed block => block.pass 0

/-- The segments of the steps from a position on, behind the block that is open there. -/
def segmentsFrom (index : Nat) (open? : Option Block) : List Step → List Segment
  | [] => open?.toList.map .unclosed
  | .skip _ :: steps => segmentsFrom (index + 1) open? steps
  | .run instruction :: steps =>
    match open?, instruction with
    | none, .loop spec =>
      segmentsFrom (index + 1) (some { marker := index, spec, members := [index] }) steps
    | none, _ => .single index :: segmentsFrom (index + 1) none steps
    | some block, .loopEnd => .closed (block.extend index) :: segmentsFrom (index + 1) none steps
    | some block, _ => segmentsFrom (index + 1) (some (block.extend index)) steps

/-- Outside of blocks any step but a `loop` stands for itself. -/
theorem segmentsFrom_single (index : Nat) {instruction : Instruction} (h : instruction.kind ≠ .loop)
    (steps : List Step) :
    segmentsFrom index none (.run instruction :: steps) =
      .single index :: segmentsFrom (index + 1) none steps := by
  cases instruction with
  | loop spec => exact absurd rfl h
  | _ => rfl

/-- In a block any step but a `loopEnd` becomes a member. -/
theorem segmentsFrom_member (index : Nat) (block : Block) {instruction : Instruction}
    (h : instruction.kind ≠ .loopEnd) (steps : List Step) :
    segmentsFrom index (some block) (.run instruction :: steps) =
      segmentsFrom (index + 1) (some (block.extend index)) steps := by
  cases instruction with
  | loopEnd => exact absurd rfl h
  | _ => rfl

/-- What comes of visits made one after the other. -/
structure Course where
  outcome : Except RunError RunOutcome
  stage : Stage
  visits : List Visit

/-- The course behind visits made before. -/
def Course.behind (made : List Visit) (course : Course) : Course :=
  { course with visits := made ++ course.visits }

theorem Course.behind_append (first second : List Visit) (course : Course) :
    course.behind (first ++ second) = (course.behind second).behind first := by
  simp [behind]

/-- The course of a run. -/
def RunResult.course (result : RunResult) : Course where
  outcome := result.outcome
  stage := result.stage
  visits := result.visits.toList

namespace Script

/-- The visits of a script that neither ends early nor fails. -/
def itinerary (script : Script) : List Visit := (segmentsFrom 0 none script.steps).flatMap Segment.visits

/-- Visits made one after the other, up to the first `end` or failure. -/
def follow (script : Script) (setting : Setting) : List Visit → Stage → Course
  | [], stage => { outcome := .ok .completed, stage, visits := [] }
  | visit :: later, stage =>
    match script.steps[visit.index]? with
    | some (.run instruction) =>
      match (Stage.perform setting { index := visit.index, frame := visit.frame } instruction).run stage with
      | (.error cause, stage) =>
        { outcome := .error { index := visit.index, kind := instruction.kind, cause }, stage, visits := [visit] }
      | (.ok (), stage) =>
        if instruction.kind = .finish then { outcome := .ok (.ended visit.index), stage, visits := [visit] }
        else (script.follow setting later stage).behind [visit]
    | _ => script.follow setting later stage

/-- The step of a visit is an instruction. -/
def IsVisitable (script : Script) (visit : Visit) : Prop :=
  ∃ instruction, script.steps[visit.index]? = some (.run instruction)

variable {script : Script} {setting : Setting}

/-- A failure at the first visit ends the course. -/
theorem follow_of_error (visit : Visit) {instruction : Instruction} {stage stage' : Stage} {cause : EngineError}
    (step : script.steps[visit.index]? = some (.run instruction))
    (failed : (Stage.perform setting { index := visit.index, frame := visit.frame } instruction).run stage =
      (.error cause, stage'))
    (later : List Visit) :
    script.follow setting (visit :: later) stage =
      { outcome := .error { index := visit.index, kind := instruction.kind, cause }, stage := stage'
        visits := [visit] } := by
  simp [follow, step, failed]

/-- An `end` at the first visit ends the course. -/
theorem follow_of_finish (visit : Visit) {instruction : Instruction} {stage stage' : Stage}
    (step : script.steps[visit.index]? = some (.run instruction))
    (done : (Stage.perform setting { index := visit.index, frame := visit.frame } instruction).run stage =
      (.ok (), stage'))
    (finish : instruction.kind = .finish) (later : List Visit) :
    script.follow setting (visit :: later) stage =
      { outcome := .ok (.ended visit.index), stage := stage', visits := [visit] } := by
  simp [follow, step, done, finish]

/-- Behind any other visit the course goes on with the later ones. -/
theorem follow_of_ok (visit : Visit) {instruction : Instruction} {stage stage' : Stage}
    (step : script.steps[visit.index]? = some (.run instruction))
    (done : (Stage.perform setting { index := visit.index, frame := visit.frame } instruction).run stage =
      (.ok (), stage'))
    (more : instruction.kind ≠ .finish) (later : List Visit) :
    script.follow setting (visit :: later) stage = (script.follow setting later stage').behind [visit] := by
  simp [follow, step, done, more]

/-- The visits made are the first of those that were to be made, and all of them unless
the course was cut. -/
theorem follow_visits (visits : List Visit) (stage : Stage) (visitable : ∀ v ∈ visits, script.IsVisitable v) :
    (script.follow setting visits stage).visits <+: visits ∧
      ((script.follow setting visits stage).outcome = .ok .completed →
        (script.follow setting visits stage).visits = visits) := by
  induction visits generalizing stage with
  | nil => exact ⟨List.nil_prefix, fun _ => rfl⟩
  | cons visit later ih =>
    obtain ⟨instruction, step⟩ := visitable visit List.mem_cons_self
    rcases result : (Stage.perform setting { index := visit.index, frame := visit.frame } instruction).run stage
      with ⟨cause | _, stage'⟩
    · rw [follow_of_error visit step result]
      exact ⟨⟨later, rfl⟩, nofun⟩
    · by_cases finish : instruction.kind = .finish
      · rw [follow_of_finish visit step result finish]
        exact ⟨⟨later, rfl⟩, nofun⟩
      · obtain ⟨start, whole⟩ := ih stage' fun v mem => visitable v (List.mem_cons_of_mem _ mem)
        rw [follow_of_ok visit step result finish]
        exact ⟨List.cons_prefix_cons.2 ⟨rfl, start⟩, fun completed => by simp [Course.behind, whole completed]⟩

/-- A course that is over before its last visit without a failure is so at an `end`. -/
theorem finish_of_ended (visits : List Visit) (stage : Stage) {i : Nat}
    (ended : (script.follow setting visits stage).outcome = .ok (.ended i)) :
    ∃ instruction, script.steps[i]? = some (.run instruction) ∧ instruction.kind = .finish := by
  induction visits generalizing stage with
  | nil => cases ended
  | cons visit later ih =>
    rw [follow] at ended
    split at ended
    · rename_i instruction step
      split at ended
      · cases ended
      · split at ended
        · rename_i finish
          cases ended
          exact ⟨instruction, step, finish⟩
        · exact ih _ ended
    · exact ih stage ended

end Script

end CanvasScript
