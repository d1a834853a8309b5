import CanvasScript.Proofs.Run.Segments
import Mathlib.Data.List.Basic

/-!
# Blocks of a run

A block is walked through in every pass from its loop to its end (`Block.Walked`),
and the passes come one after the other (`Block.route_passes`). So the route of a
script is its itinerary (`route_start`), and a run visits what can be read off the
steps from left to right (`run_follows_itinerary`).
-/

namespace CanvasScript

namespace Script

variable {script : Script}

theorem route_skip {p : Position} {key : String} {rest : List Step}
    (ahead : script.steps.drop p.pointer = .skip key :: rest) : script.route p = script.route p.next := by
  obtain ⟨_, step⟩ := getElem_of_drop ahead
  exact route_of_skip step

theorem route_run {p : Position} {instruction : Instruction} {rest : List Step}
    (ahead : script.steps.drop p.pointer = .run instruction :: rest) :
    script.route p =
      { index := p.pointer, frame := p.entered instruction } :: script.route (p.beyond instruction) := by
  obtain ⟨_, step⟩ := getElem_of_drop ahead
  exact route_of_run step

theorem route_nil {p : Position} (ahead : script.steps.drop p.pointer = []) : script.route p = [] :=
  route_of_end (by rw [Nat.not_lt]; exact List.drop_eq_nil_iff.1 ahead)

end Script

namespace Block

variable {script : Script}

/-- Every pass of a block comes from its loop to a step by the visits of its members. -/
structure Walked (script : Script) (block : Block) (pointer : Nat) : Prop where
  marker_le : block.marker ≤ pointer
  route_eq : ∀ counter,
    script.route (block.position block.marker (Nat.le_refl _) counter) =
      block.pass counter ++ script.route (block.position pointer marker_le counter)

/-- The block that a loop opens. -/
def opened (marker : Nat) (spec : LoopSpec) : Block := { marker, spec, members := [marker] }

/-- A loop is passed through in every pass of its own block. -/
theorem walked_opened {marker : Nat} {spec : LoopSpec} {rest : List Step}
    (ahead : script.steps.drop marker = .run (.loop spec) :: rest) :
    (opened marker spec).Walked script (marker + 1) where
  marker_le := Nat.le_succ _
  route_eq counter := by
    rw [Script.route_run ahead]
    rfl

/-- The first pass of a block starts at its loop, outside of any other. -/
theorem route_outside_loop {marker : Nat} {spec : LoopSpec} {rest : List Step}
    (ahead : script.steps.drop marker = .run (.loop spec) :: rest) :
    script.route (.outside marker) =
      script.route ((opened marker spec).position marker (Nat.le_refl _) 0) :=
  (Script.route_run (p := .outside marker) ahead).trans
    (Script.route_run (p := (opened marker spec).position marker (Nat.le_refl _) 0) ahead).symm

variable {block : Block} {pointer : Nat} {rest : List Step}

theorem Walked.skip {key : String} (walked : block.Walked script pointer)
    (ahead : script.steps.drop pointer = .skip key :: rest) : block.Walked script (pointer + 1) where
  marker_le := Nat.le_succ_of_le walked.marker_le
  route_eq counter := by
    rw [walked.route_eq, Script.route_skip (p := block.position pointer walked.marker_le counter) ahead]
    rfl

theorem Walked.step {instruction : Instruction} (walked : block.Walked script pointer)
    (ahead : script.steps.drop pointer = .run instruction :: rest) (inner : instruction.kind ≠ .loopEnd) :
    (block.extend pointer).Walked script (pointer + 1) where
  marker_le := Nat.le_succ_of_le walked.marker_le
  route_eq counter := by
    have active : (block.position pointer walked.marker_le counter).frame = some (block.frame counter) := rfl
    have onward := Script.route_run (p := block.position pointer walked.marker_le counter) ahead
    rw [Position.entered_of_active active, Position.beyond_of_active active inner] at onward
    calc script.route (block.position block.marker (Nat.le_refl _) counter)
      _ = block.pass counter ++ script.route (block.position pointer walked.marker_le counter) :=
        walked.route_eq counter
      _ = (block.extend pointer).pass counter ++
          script.route (block.position pointer walked.marker_le counter).next := by
        rw [onward, pass_extend, List.append_assoc]
        rfl

/-- Behind a pass of a block the next one follows, or what comes behind the block. -/
theorem Walked.close (walked : block.Walked script pointer)
    (ahead : script.steps.drop pointer = .run .loopEnd :: rest) (counter : Nat) :
    script.route (block.position block.marker (Nat.le_refl _) counter) =
      (block.extend pointer).pass counter ++
        if counter + 1 < block.spec.runs then
          script.route (block.position block.marker (Nat.le_refl _) (counter + 1))
        else script.route (.outside (pointer + 1)) := by
  have active : (block.position pointer walked.marker_le counter).frame = some (block.frame counter) := rfl
  have onward := Script.route_run (p := block.position pointer walked.marker_le counter) ahead
  rw [Position.entered_of_active active] at onward
  have continues_iff : (block.frame counter).advance.continues = true ↔ counter + 1 < block.spec.runs := by
    rw [← block.spec.another_run_iff]
    exact decide_eq_true_iff
  rw [walked.route_eq, onward, pass_extend, List.append_assoc]
  congr 2
  by_cases more : counter + 1 < block.spec.runs
  · rw [if_pos more]
    congr 1
    simp only [Position.beyond, Position.after?, Option.getD_some, Position.endLoop, active,
      continues_iff.2 more, if_true]
    rfl
  · rw [if_neg more]
    congr 1
    simp only [Position.beyond, Position.after?, Option.getD_some, Position.endLoop, active,
      mt continues_iff.1 more]
    rfl

/-- The passes of a closed block come one after the other, the last before what comes
behind the block. -/
theorem route_passes (walked : block.Walked script pointer)
    (ahead : script.steps.drop pointer = .run .loopEnd :: rest) (left counter : Nat)
    (last : counter + left + 1 = block.spec.runs) :
    script.route (block.position block.marker (Nat.le_refl _) counter) =
      (List.range' counter (left + 1)).flatMap (block.extend pointer).pass ++
        script.route (.outside (pointer + 1)) := by
  induction left generalizing counter with
  | zero =>
    rw [walked.close ahead, if_neg (by omega)]
    simp
  | succ left ih =>
    rw [walked.close ahead, if_pos (by omega), ih (counter + 1) (by omega),
      ← List.append_assoc, ← List.flatMap_cons, ← List.range'_succ]

end Block

namespace Script

variable {script : Script}

/-- From a position in the first pass of a block or outside of blocks a route walks
through the segments ahead of it. -/
theorem route_eq_segments (ahead : List Step) (pointer : Nat) (here : script.steps.drop pointer = ahead) :
    script.route (.outside pointer) = (segmentsFrom pointer none ahead).flatMap Segment.walk ∧
      ∀ block : Block, block.Walked script pointer →
        script.route (block.position block.marker (Nat.le_refl _) 0) =
          (segmentsFrom pointer (some block) ahead).flatMap Segment.walk := by
  induction ahead generalizing pointer with
  | nil =>
    refine ⟨route_nil here, fun block walked => ?_⟩
    rw [walked.route_eq, route_nil here]
    simp [segmentsFrom, Segment.walk]
  | cons step rest ih =>
    obtain ⟨outside, inside⟩ := ih (pointer + 1) (drop_succ_of_drop here)
    cases step with
    | skip key =>
      exact ⟨(route_skip (p := .outside pointer) here).trans outside,
        fun block walked => inside block (walked.skip here)⟩
    | run instruction =>
      constructor
      · by_cases opens : instruction.kind = .loop
        · obtain ⟨spec, rfl⟩ := Instruction.kind_eq_loop_iff.1 opens
          rw [Block.route_outside_loop here]
          exact inside (.opened pointer spec) (Block.walked_opened here)
        · rw [segmentsFrom_single pointer opens, List.flatMap_cons, ← outside,
            ← Position.beyond_outside pointer opens, route_run (p := .outside pointer) here,
            Position.entered_outside pointer opens]
          rfl
      · intro block walked
        by_cases closes : instruction.kind = .loopEnd
        · obtain rfl := Instruction.kind_eq_loopEnd_iff.1 closes
          obtain ⟨left, runs⟩ := Nat.exists_eq_add_of_le' block.spec.runs_pos
          rw [Block.route_passes walked here left 0 (by omega), outside]
          simp [segmentsFrom, Segment.walk, Block.extend, runs, List.range_eq_range']
        · rw [segmentsFrom_member pointer block closes]
          exact inside (block.extend pointer) (walked.step here closes)

/-- The route from the start walks through all segments. -/
theorem route_start_eq_segments (script : Script) :
    script.route .start = (segmentsFrom 0 none script.steps).flatMap Segment.walk :=
  (route_eq_segments script.steps 0 List.drop_zero).1

/-- A run walks through all segments, up to an `end` or a failure. -/
theorem course_run_eq_segments (script : Script) (setting : Setting) (stage : Stage) :
    (script.run setting stage).course =
      script.follow setting ((segmentsFrom 0 none script.steps).flatMap Segment.walk) stage := by
  rw [course_run, route_start_eq_segments]

/-- The route from the start is the itinerary, if the counts of all loops fit. -/
theorem route_start (fits : ∀ spec, .run (.loop spec) ∈ script.steps → spec.CountFits) :
    script.route .start = script.itinerary := by
  rw [route_start_eq_segments, itinerary]
  refine List.flatMap_congr fun segment mem => ?_
  have started := isOf_of_mem_segments script.steps 0 List.drop_zero none nofun segment mem
  cases segment with
  | closed block =>
    have blockFits := fits block.spec (List.mem_of_getElem? (started block rfl))
    rw [Segment.walk, Segment.visits, block.spec.runs_eq_rounds blockFits]
  | _ => rfl

/-- Without the end of a loop every instruction is visited once, in order. -/
theorem index_route_start (endless : .run .loopEnd ∉ script.steps) :
    (script.route .start).map Visit.index = instructionsFrom 0 script.steps := by
  have each : ∀ segment ∈ segmentsFrom 0 none script.steps, segment.walk.map Visit.index = segment.members := by
    intro segment mem
    refine segment.index_walk fun block closed => ?_
    exact not_closed_of_mem_segments endless block (closed ▸ mem)
  calc (script.route .start).map Visit.index
    _ = (segmentsFrom 0 none script.steps).flatMap fun segment => segment.walk.map Visit.index := by
      rw [route_start_eq_segments, List.map_flatMap]
    _ = (segmentsFrom 0 none script.steps).flatMap Segment.members := List.flatMap_congr each
    _ = instructionsFrom 0 script.steps := members_of_segments 0 none script.steps

/-- **A run follows its itinerary**, as far as it gets: its outcome, its stage and its
visits are those of the visits of the itinerary made one after the other, and the
passes of a block are as many as the count of its loop asks for. -/
theorem run_follows_itinerary (script : Script) (setting : Setting) (stage : Stage)
    (fits : ∀ spec, .run (.loop spec) ∈ script.steps → spec.CountFits) :
    (script.run setting stage).course = script.follow setting script.itinerary stage ∧
      (script.run setting stage).visits.toList <+: script.itinerary ∧
      ((script.run setting stage).outcome = .ok .completed →
        (script.run setting stage).visits.toList = script.itinerary) ∧
      (∀ visit ∈ script.itinerary, script.IsVisitable visit) ∧
      ∀ spec : LoopSpec, IsLeast {k | 1 ≤ k ∧ spec.MetBy k} spec.rounds := by
  have visitable : ∀ visit ∈ script.itinerary, script.IsVisitable visit :=
    route_start fits ▸ isVisitable_of_mem_route .start
  have course : (script.run setting stage).course = script.follow setting script.itinerary stage := by
    rw [← route_start fits]
    exact course_runFrom .start stage #[]
  obtain ⟨start, whole⟩ := follow_visits script.itinerary stage visitable
  rw [← course] at start whole
  exact ⟨course, start, whole, visitable, LoopSpec.isLeast_rounds⟩

/-- A loop with a fraction in its count around another loop and a step that is passed
over, an end outside of blocks, and a block that ends with the script. -/
def mixedLoops : Script where
  steps :=
    [.run (.loop { count := some (Decimal.nearest false ⟨25, -1⟩), start := none }), .run .note,
      .run (.loop { count := some (.ofNat 9), start := none }), .skip "pause", .run .loopEnd, .run .loopEnd,
      .run (.loop { count := none, start := none }), .run .finish, .run .note]

/-- The outer body runs three times, the inner loop never starts, and the run is over
at the `end`. -/
theorem run_follows_itinerary_mixedLoops :
    (∀ spec, .run (.loop spec) ∈ mixedLoops.steps → spec.CountFits) ∧
      (mixedLoops.run { resolver := Settings.default.resolver .empty 64, settings := .default }
          (.ofHost (.ofPictures "/pics") (.ofSource fun _ => 0) .empty "")).visits.toList.map
        (fun visit => (visit.index, visit.frame.map LoopFrame.counter)) =
      [(0, some 0), (1, some 0), (2, some 0), (4, some 0), (0, some 1), (1, some 1), (2, some 1), (4, some 1),
        (0, some 2), (1, some 2), (2, some 2), (4, some 2), (5, none), (6, some 0), (7, some 0)] := by
  have fits : ∀ spec, .run (.loop spec) ∈ mixedLoops.steps → spec.CountFits := by
    intro spec mem n count _
    simp only [mixedLoops, List.mem_cons, Step.run.injEq, Instruction.loop.injEq, reduceCtorEq, false_or,
      List.not_mem_nil, or_false] at mem
    rcases mem with rfl | rfl | rfl <;> cases count <;> decide +kernel
  refine ⟨fits, ?_⟩
  have course := (run_follows_itinerary mixedLoops
    { resolver := Settings.default.resolver .empty 64, settings := .default }
    (.ofHost (.ofPictures "/pics") (.ofSource fun _ => 0) .empty "") fits).1
  rw [show (mixedLoops.run _ _).visits.toList = _ from congrArg Course.visits course]
  decide +kernel

end Script

end CanvasScript
