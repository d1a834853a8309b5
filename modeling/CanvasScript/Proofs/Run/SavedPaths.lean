import CanvasScript.Proofs.FilePath.Numbering
import CanvasScript.Proofs.Run.Blocks
import CanvasScript.Proofs.Run.Trace
import Mathlib.Data.List.Nodup

/-!
# Paths saved in a loop

The visits of a run to one of its steps are the passes through the segment that has it
as a member, one after the other (`Script.exists_visits_to`). So no two of them have the
same number, and a `loopSave` never saves to a path that it has saved to before
(`Script.loopSave_never_overwrites`).
-/

namespace CanvasScript

open FilePath (join numbered directory extension?)

/-- The number of the pass in which a visit is made. -/
def Visit.number (visit : Visit) : Int := Spot.number { index := visit.index, frame := visit.frame }

/-- The visits to a step. -/
def visitsTo (i : Nat) (visits : List Visit) : List Visit := visits.filter fun visit => visit.index == i

/-- The visits to a step in the passes of a block from the first on. -/
def Block.visitsTo (block : Block) (i passes : Nat) : List Visit :=
  (List.range passes).map fun counter => { index := i, frame := some (block.frame counter) }

section Members

variable {i : Nat}

theorem visitsTo_pass (block : Block) (i counter : Nat) :
    visitsTo i (block.pass counter) =
      List.replicate (block.members.count i) { index := i, frame := some (block.frame counter) } := by
  unfold visitsTo Block.pass
  rw [List.filter_map]
  have same : (fun visit : Visit => visit.index == i) ∘
      (fun index => { index, frame := some (block.frame counter) }) = fun index => index == i := rfl
  rw [same, List.filter_beq, List.map_replicate]

/-- A step that is not a member of a segment is not visited there. -/
theorem visitsTo_walk_of_not_mem {segment : Segment} (other : i ∉ segment.members) :
    visitsTo i segment.walk = [] := by
  have none_of (block : Block) (other : i ∉ block.members) (counter : Nat) :
      visitsTo i (block.pass counter) = [] := by
    rw [visitsTo_pass, List.count_eq_zero.2 other]
    rfl
  cases segment with
  | single index =>
    have different : ¬index = i := fun same => other (same ▸ List.mem_singleton_self _)
    simp [visitsTo, Segment.walk, different]
  | unclosed block => exact none_of block other 0
  | closed block =>
    rw [visitsTo, Segment.walk, List.filter_flatMap, List.flatMap_eq_nil_iff]
    exact fun counter _ => none_of block other counter

theorem visitsTo_pass_of_once {block : Block} (once : block.members.count i = 1) (counter : Nat) :
    visitsTo i (block.pass counter) = [{ index := i, frame := some (block.frame counter) }] := by
  rw [visitsTo_pass, once]
  rfl

/-- In a closed block a step that is a member once is visited once in every pass. -/
theorem visitsTo_walk_closed {block : Block} (once : block.members.count i = 1) :
    visitsTo i (Segment.closed block).walk = block.visitsTo i block.spec.runs := by
  rw [visitsTo, Segment.walk, List.filter_flatMap, Block.visitsTo, List.map_eq_flatMap]
  exact List.flatMap_congr fun counter _ => visitsTo_pass_of_once once counter

/-- A step that is a member once is visited outside of loops, or once in every pass. -/
theorem visitsTo_walk_of_once {segment : Segment} (once : segment.members.count i = 1) :
    visitsTo i segment.walk = [{ index := i, frame := none }] ∨
      ∃ block ∈ segment.block?, ∃ passes ≤ block.spec.runs, visitsTo i segment.walk = block.visitsTo i passes := by
  cases segment with
  | single index =>
    left
    have same : index = i := by
      have mem := List.count_pos_iff.1 (Nat.lt_of_lt_of_eq Nat.one_pos once.symm)
      exact (List.mem_singleton.1 mem).symm
    simp [visitsTo, Segment.walk, same]
  | unclosed block =>
    right
    refine ⟨block, rfl, 1, block.spec.runs_pos, ?_⟩
    rw [Segment.walk, visitsTo_pass_of_once once]
    rfl
  | closed block => exact .inr ⟨block, rfl, block.spec.runs, Nat.le_refl _, visitsTo_walk_closed once⟩

theorem Block.number_of_pass (block : Block) (i counter : Nat) :
    Visit.number { index := i, frame := some (block.frame counter) } =
      (block.spec.offset + counter).bmod UInt64.size := by
  rw [Int.add_comm]
  rfl

/-- A pass has the number that is counted from the start of the loop, if that has 64 bits. -/
theorem Block.number_of_fits {block : Block} (fits : block.spec.NumbersFit) (i : Nat) {counter : Nat}
    (within : counter < block.spec.runs) :
    Visit.number { index := i, frame := some (block.frame counter) } = block.spec.offset + counter := by
  obtain ⟨least, most⟩ := LoopSpec.number_bounds fits within
  unfold Binary64.int64Bound at least most
  rw [block.number_of_pass]
  apply Int.bmod_eq_of_le_mul_two <;> unfold UInt64.size <;> omega

/-- No two visits to a step in the passes of a block have the same number: they are fewer than
there are numbers of 64 bits. -/
theorem Block.nodup_numbers {block : Block} {passes : Nat} (few : passes ≤ block.spec.runs) (i : Nat) :
    ((block.visitsTo i passes).map Visit.number).Nodup := by
  have bound := block.spec.runs_le
  unfold Binary64.int64Bound at bound
  rw [Block.visitsTo, List.map_map]
  refine List.nodup_range.map_on fun first first_mem second second_mem same => ?_
  have first_lt := List.mem_range.1 first_mem
  have second_lt := List.mem_range.1 second_mem
  have numbers : (block.spec.offset + (first : Int)).bmod UInt64.size =
      (block.spec.offset + (second : Int)).bmod UInt64.size := by
    rw [← block.number_of_pass i, ← block.number_of_pass i]
    exact same
  have remainders := congrArg (· % (UInt64.size : Int)) numbers
  simp only [Int.bmod_emod, UInt64.size] at remainders
  omega

@[simp] theorem Block.length_visitsTo (block : Block) (i passes : Nat) : (block.visitsTo i passes).length = passes := by
  simp [Block.visitsTo]

/-- The first of the visits to a step are its visits in fewer passes. -/
theorem Block.eq_visitsTo_of_prefix {block : Block} {passes : Nat} {visits : List Visit}
    (first : visits <+: block.visitsTo i passes) : visits = block.visitsTo i visits.length := by
  have bound : visits.length ≤ passes := by simpa using first.length_le
  have taken := List.prefix_iff_eq_take.1 first
  rw [Block.visitsTo, ← List.map_take, List.take_range, Nat.min_eq_left bound] at taken
  exact taken

end Members

namespace Script

variable {script : Script} {i : Nat}

/-- Exactly one segment has an instruction as a member, and that once. -/
theorem exists_segment {instruction : Instruction} (step : script.steps[i]? = some (.run instruction)) :
    ∃ before segment after, segmentsFrom 0 none script.steps = before ++ segment :: after ∧
      segment.members.count i = 1 ∧ ∀ other ∈ before ++ after, i ∉ other.members := by
  have once : ((segmentsFrom 0 none script.steps).flatMap Segment.members).count i = 1 := by
    have mem : 0 + i ∈ instructionsFrom 0 script.steps := mem_instructionsFrom step
    rw [Nat.zero_add] at mem
    rw [members_of_segments]
    exact List.count_eq_one_of_mem (nodup_instructionsFrom 0 script.steps) mem
  have mem : i ∈ (segmentsFrom 0 none script.steps).flatMap Segment.members :=
    List.count_pos_iff.1 (Nat.lt_of_lt_of_eq Nat.one_pos once.symm)
  obtain ⟨segment, within, inside⟩ := List.mem_flatMap.1 mem
  obtain ⟨before, after, split⟩ := List.append_of_mem within
  have here := List.count_pos_iff.2 inside
  rw [split, List.flatMap_append, List.flatMap_cons, List.count_append, List.count_append] at once
  refine ⟨before, segment, after, split, by omega, fun other elsewhere member => ?_⟩
  have more : 0 < ((before ++ after).flatMap Segment.members).count i :=
    List.count_pos_iff.2 (List.mem_flatMap.2 ⟨other, elsewhere, member⟩)
  rw [List.flatMap_append, List.count_append] at more
  omega

/-- A run that nothing cuts visits a step once outside of loops, or once in every pass
through a block of the script. -/
theorem exists_visits_to {instruction : Instruction} (step : script.steps[i]? = some (.run instruction)) :
    visitsTo i (script.route .start) = [{ index := i, frame := none }] ∨
      ∃ block : Block, block.IsOf script ∧
        ∃ passes ≤ block.spec.runs, visitsTo i (script.route .start) = block.visitsTo i passes := by
  obtain ⟨before, segment, after, split, once, others⟩ := exists_segment step
  have elsewhere (segments : List Segment) (part : ∀ other ∈ segments, other ∈ before ++ after) :
      visitsTo i (segments.flatMap Segment.walk) = [] := by
    rw [visitsTo, List.filter_flatMap, List.flatMap_eq_nil_iff]
    exact fun other mem => visitsTo_walk_of_not_mem (others other (part other mem))
  have only : visitsTo i (script.route .start) = visitsTo i segment.walk := by
    have first := elsewhere before fun _ => List.mem_append_left after
    have last := elsewhere after fun _ => List.mem_append_right before
    unfold visitsTo at first last ⊢
    rw [route_start_eq_segments, split, List.flatMap_append, List.flatMap_cons, List.filter_append,
      List.filter_append, first, last, List.nil_append, List.append_nil]
  rw [only]
  rcases visitsTo_walk_of_once once with single | ⟨block, isBlock, passes, few, visits⟩
  · exact .inl single
  · have within : segment ∈ segmentsFrom 0 none script.steps := split ▸ List.mem_append_right _ List.mem_cons_self
    exact .inr ⟨block, isOf_of_mem_segments script.steps 0 List.drop_zero none nofun segment within block isBlock,
      passes, few, visits⟩

/-- The path to which a `loopSave` saves in a visit. -/
def savedPath (root path : String) (visit : Visit) : String := join root (numbered path visit.number)

/-- In a visit a `loopSave` touches the file that it saves to. -/
theorem touch?_of_loopSave {host : Host} {path : String} (step : script.steps[i]? = some (.run (.loopSave path)))
    {visit : Visit} (here : visit.index = i) :
    script.touch? host visit = some (.saveImage (savedPath host.pictures path visit) false) := by
  rw [touch?, here, step]
  rfl

/-- The visits that a run makes to a step: none or one outside of loops, or one in each
of the first passes through a block. -/
theorem run_visits_to {instruction : Instruction} (step : script.steps[i]? = some (.run instruction))
    (setting : Setting) (stage : Stage) :
    visitsTo i (script.run setting stage).course.visits <+: [{ index := i, frame := none }] ∨
      ∃ block : Block, block.IsOf script ∧
        ∃ passes ≤ block.spec.runs, visitsTo i (script.run setting stage).course.visits = block.visitsTo i passes := by
  have made : (script.run setting stage).course.visits <+: script.route .start := by
    rw [course_run]
    exact (follow_visits _ stage (isVisitable_of_mem_route .start)).1
  have first : visitsTo i (script.run setting stage).course.visits <+: visitsTo i (script.route .start) :=
    made.filter _
  rcases exists_visits_to step with single | ⟨block, isOf, passes, few, visits⟩
  · exact .inl (single ▸ first)
  · have first := visits ▸ first
    have length : (visitsTo i (script.run setting stage).course.visits).length ≤ passes := by
      simpa using first.length_le
    exact .inr ⟨block, isOf, _, Nat.le_trans length few, Block.eq_visitsTo_of_prefix first⟩

/-- **A `loopSave` never overwrites** what it has saved in the same run. The paths that its
visits save to are different, in the directory of the written path and with its
extension. Outside of loops it saves once at most, with the number 0; in a loop it saves
with the numbers from the loop's start on, in order, as long as these have 64 bits. These are
the files that the run touches at the step, but for the last of them if it fails. -/
theorem loopSave_never_overwrites (script : Script) (setting : Setting) (stage : Stage) {i : Nat} {path : String}
    (step : script.steps[i]? = some (.run (.loopSave path))) :
    let root := stage.host.pictures
    let visits := visitsTo i (script.run setting stage).visits.toList
    let given := visits.map (savedPath root path)
    let touched := ((script.runTrace setting stage).filter (·.visit.index == i)).flatMap Episode.touched
    given.Nodup ∧
      (∀ visit ∈ visits,
        directory (numbered path visit.number) = directory path ∧
          extension? (numbered path visit.number) = extension? path ∧
          directory (savedPath root path visit) = directory (join root path) ∧
          extension? (savedPath root path visit) = extension? path) ∧
      (visits <+: [{ index := i, frame := none }] ∧ given <+: [join root (numbered path 0)] ∨
        ∃ marker spec, script.steps[marker]? = some (.run (.loop spec)) ∧
          visits = (List.range visits.length).map (fun counter : Nat =>
            { index := i, frame := some { LoopFrame.start marker spec with counter } }) ∧
          visits.length ≤ spec.runs ∧
          (spec.NumbersFit → given = (List.range visits.length).map fun counter : Nat =>
            join root (numbered path (spec.offset + counter)))) ∧
      ∃ missed : List Call, touched ++ missed = given.map (Call.saveImage · false) ∧ missed.length ≤ 1 ∧
        ((script.run setting stage).outcome.isOk = true → missed = []) := by
  intro root visits given touched
  have cases := run_visits_to step setting stage
  have told : visits.filterMap (script.touch? stage.host) = given.map (Call.saveImage · false) := by
    rw [List.map_map, ← List.filterMap_eq_map]
    refine List.filterMap_congr fun visit mem => ?_
    have here := beq_iff_eq.1 (List.mem_filter.1 mem).2
    exact touch?_of_loopSave step here
  have numbers : (visits.map Visit.number).Nodup := by
    rcases cases with single | ⟨block, -, passes, few, same⟩
    · exact (single.map Visit.number).sublist.nodup (List.nodup_singleton _)
    · have same : visits = block.visitsTo i passes := same
      rw [same]
      exact Block.nodup_numbers few i
  have log := (accounts_of_run script setting stage).touched fun visit => visit.index == i
  refine ⟨?distinct, ?kept, ?order, told ▸ log⟩
  case distinct =>
    have through : given = (visits.map Visit.number).map fun number => join root (numbered path number) := by
      rw [List.map_map]
      rfl
    rw [through]
    exact numbers.map fun first second same => FilePath.join_numbered_injective root path same
  case kept =>
    intro visit _
    obtain ⟨place, ending⟩ := FilePath.parts_join_numbered root path visit.number
    exact ⟨FilePath.directory_numbered path _, FilePath.extension?_numbered path _, place, ending⟩
  case order =>
    rcases cases with single | ⟨block, isOf, passes, few, same⟩
    · exact .inl ⟨single, single.map _⟩
    · have same : visits = block.visitsTo i passes := same
      have length : visits.length = passes := by rw [same, Block.length_visitsTo]
      rw [← length] at same few
      refine .inr ⟨block.marker, block.spec, isOf, same, few, fun fits => ?_⟩
      have given_eq : given = (block.visitsTo i visits.length).map (savedPath root path) := by
        rw [← same]
      rw [given_eq, Block.visitsTo, List.map_map]
      refine List.map_congr_left fun counter mem => ?_
      have within : counter < block.spec.runs := Nat.lt_of_lt_of_le (List.mem_range.1 mem) few
      exact congrArg (fun number => join root (numbered path number)) (Block.number_of_fits fits i within)

/-- Three passes from a negative number on. -/
def shots : LoopSpec := { count := some (.ofNat 3), start := some (Decimal.nearest true ⟨1, 0⟩) }

/-- A loop around a step that saves. -/
def numberedShots : Script where
  steps := [.run (.loop shots), .run (.loopSave "out/shot.v2.png"), .run .loopEnd]

/-- The three passes save three files, with numbers that fit. -/
theorem loopSave_never_overwrites_numberedShots :
    let setting : Setting := { resolver := Settings.default.resolver .empty 64, settings := .default }
    let stage := Stage.ofHost (.ofPictures "/pics") (.ofSource fun _ => 0) .empty ""
    let given := (visitsTo 1 (numberedShots.run setting stage).visits.toList).map
      (savedPath stage.host.pictures "out/shot.v2.png")
    numberedShots.steps[1]? = some (.run (.loopSave "out/shot.v2.png")) ∧
      given = ["/pics/out/shot.v2_0-1.png", "/pics/out/shot.v2_000.png", "/pics/out/shot.v2_001.png"] ∧
      given.Nodup ∧ shots.NumbersFit := by
  intro setting stage given
  have fits : shots.offset + shots.passes ≤ Binary64.int64Bound := by decide +kernel
  refine ⟨rfl, ?_, (loopSave_never_overwrites numberedShots setting stage rfl).1, fits⟩
  have visits : (numberedShots.run setting stage).visits.toList = _ :=
    congrArg Course.visits (course_run_eq_segments numberedShots setting stage)
  rw [show given = _ from congrArg _ (congrArg (visitsTo 1) visits)]
  decide +kernel

end Script

end CanvasScript
