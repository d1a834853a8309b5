import CanvasScript.Proofs.Run.Route

/-!
# Segments of a script

The segments of a script share its instructions out among them: every one is a member
of one segment, in order (`members_of_segments`). The block of a segment starts at the
loop that opens it (`Block.IsOf`). A run walks through a closed block as often as its
loop lets it, which may be less often than the count asks for (`Segment.walk`).
-/

namespace CanvasScript

/-- The positions of the instructions among the steps from a position on. -/
def instructionsFrom (index : Nat) : List Step → List Nat
  | [] => []
  | .skip _ :: steps => instructionsFrom (index + 1) steps
  | .run _ :: steps => index :: instructionsFrom (index + 1) steps

theorem le_of_mem_instructionsFrom {index i : Nat} {steps : List Step} (mem : i ∈ instructionsFrom index steps) :
    index ≤ i := by
  induction steps generalizing index with
  | nil => cases mem
  | cons step steps ih =>
    cases step with
    | skip key => exact Nat.le_of_succ_le (ih mem)
    | run instruction =>
      rcases List.mem_cons.1 mem with rfl | later
      · exact Nat.le_refl _
      · exact Nat.le_of_succ_le (ih later)

theorem nodup_instructionsFrom (index : Nat) (steps : List Step) : (instructionsFrom index steps).Nodup := by
  induction steps generalizing index with
  | nil => exact List.nodup_nil
  | cons step steps ih =>
    cases step with
    | skip key => exact ih (index + 1)
    | run instruction =>
      refine List.nodup_cons.2 ⟨fun mem => ?_, ih (index + 1)⟩
      have := le_of_mem_instructionsFrom mem
      omega

theorem mem_instructionsFrom {index i : Nat} {steps : List Step} {instruction : Instruction}
    (step : steps[i]? = some (.run instruction)) : index + i ∈ instructionsFrom index steps := by
  induction steps generalizing index i with
  | nil => cases step
  | cons first steps ih =>
    cases i with
    | zero =>
      cases step
      exact List.mem_cons_self
    | succ i =>
      have later : index + 1 + i ∈ instructionsFrom (index + 1) steps := ih step
      have same : index + (i + 1) = index + 1 + i := by omega
      rw [same]
      cases first with
      | skip key => exact later
      | run instruction => exact List.mem_cons_of_mem _ later

namespace Segment

/-- The steps that are visited in a pass through a segment, in order. -/
def members : Segment → List Nat
  | single index => [index]
  | closed block | unclosed block => block.members

/-- The block of a segment. -/
def block? : Segment → Option Block
  | single _ => none
  | closed block | unclosed block => some block

/-- The visits that a run makes to a segment. -/
def walk : Segment → List Visit
  | single index => [{ index, frame := none }]
  | closed block => (List.range block.spec.runs).flatMap block.pass
  | unclosed block => block.pass 0

end Segment

/-- The segments of the steps have the steps of the open block and then all instructions
as members. -/
theorem members_of_segments (index : Nat) (open? : Option Block) (steps : List Step) :
    (segmentsFrom index open? steps).flatMap Segment.members =
      open?.elim [] Block.members ++ instructionsFrom index steps := by
  induction steps generalizing index open? with
  | nil => cases open? <;> simp [segmentsFrom, instructionsFrom, Segment.members]
  | cons step steps ih =>
    cases step with
    | skip key => exact ih (index + 1) open?
    | run instruction =>
      cases open? with
      | none =>
        by_cases opens : instruction.kind = .loop
        · obtain ⟨spec, rfl⟩ := Instruction.kind_eq_loop_iff.1 opens
          exact ih (index + 1) _
        · rw [segmentsFrom_single index opens, List.flatMap_cons, ih]
          rfl
      | some block =>
        by_cases closes : instruction.kind = .loopEnd
        · obtain rfl := Instruction.kind_eq_loopEnd_iff.1 closes
          rw [segmentsFrom, List.flatMap_cons, ih]
          simp [Segment.members, Block.extend, instructionsFrom]
        · rw [segmentsFrom_member index block closes, ih]
          simp [Block.extend, instructionsFrom]

/-- No step is a member twice. -/
theorem nodup_members (steps : List Step) : ((segmentsFrom 0 none steps).flatMap Segment.members).Nodup := by
  rw [members_of_segments]
  exact nodup_instructionsFrom 0 steps

namespace Script

/-- The steps behind the one at a position. -/
theorem drop_succ_of_drop {steps rest : List Step} {step : Step} {pointer : Nat}
    (ahead : steps.drop pointer = step :: rest) : steps.drop (pointer + 1) = rest := by
  rw [← List.tail_drop, ahead, List.tail_cons]

theorem getElem_of_drop {steps rest : List Step} {step : Step} {pointer : Nat}
    (ahead : steps.drop pointer = step :: rest) :
    ∃ inside : pointer < steps.length, steps[pointer] = step := by
  have inside : pointer < steps.length := by
    rw [← Nat.not_le, ← List.drop_eq_nil_iff, ahead]
    exact List.cons_ne_nil _ _
  refine ⟨inside, ?_⟩
  rw [List.drop_eq_getElem_cons inside] at ahead
  exact (List.cons.inj ahead).1

end Script

/-- A block starts at a step of a script, which is its loop. -/
def Block.IsOf (script : Script) (block : Block) : Prop :=
  script.steps[block.marker]? = some (.run (.loop block.spec))

/-- The blocks of the segments ahead are of the script, if the open one is. -/
theorem isOf_of_mem_segments {script : Script} (ahead : List Step) (pointer : Nat)
    (here : script.steps.drop pointer = ahead) (open? : Option Block) (started : ∀ block ∈ open?, block.IsOf script) :
    ∀ segment ∈ segmentsFrom pointer open? ahead, ∀ block ∈ segment.block?, block.IsOf script := by
  induction ahead generalizing pointer open? with
  | nil =>
    cases open? with
    | none => nofun
    | some block =>
      intro segment mem
      obtain rfl := List.mem_singleton.1 mem
      exact started
  | cons step rest ih =>
    have onward := Script.drop_succ_of_drop here
    cases step with
    | skip key => exact ih (pointer + 1) onward open? started
    | run instruction =>
      cases open? with
      | none =>
        by_cases opens : instruction.kind = .loop
        · obtain ⟨spec, rfl⟩ := Instruction.kind_eq_loop_iff.1 opens
          refine ih (pointer + 1) onward _ ?_
          rintro _ ⟨⟩
          exact List.getElem?_eq_some_iff.2 (Script.getElem_of_drop here)
        · rw [segmentsFrom_single pointer opens]
          exact List.forall_mem_cons.2 ⟨nofun, ih (pointer + 1) onward none nofun⟩
      | some block =>
        have still : ∀ other ∈ some (block.extend pointer), other.IsOf script := by
          rintro _ ⟨⟩
          exact started block rfl
        by_cases closes : instruction.kind = .loopEnd
        · obtain rfl := Instruction.kind_eq_loopEnd_iff.1 closes
          exact List.forall_mem_cons.2 ⟨still, ih (pointer + 1) onward none nofun⟩
        · rw [segmentsFrom_member pointer block closes]
          exact ih (pointer + 1) onward _ still

/-- Without the end of a loop no block is closed. -/
theorem not_closed_of_mem_segments {index : Nat} {open? : Option Block} {steps : List Step}
    (endless : .run .loopEnd ∉ steps) (block : Block) : .closed block ∉ segmentsFrom index open? steps := by
  induction steps generalizing index open? with
  | nil => cases open? <;> simp [segmentsFrom]
  | cons step steps ih =>
    rw [List.mem_cons, not_or] at endless
    cases step with
    | skip key => exact ih endless.2
    | run instruction =>
      cases open? with
      | none =>
        by_cases opens : instruction.kind = .loop
        · obtain ⟨spec, rfl⟩ := Instruction.kind_eq_loop_iff.1 opens
          exact ih endless.2
        · rw [segmentsFrom_single index opens, List.mem_cons, not_or]
          exact ⟨nofun, ih endless.2⟩
      | some other =>
        have inner : instruction.kind ≠ .loopEnd := by
          intro closes
          exact endless.1 (by rw [Instruction.kind_eq_loopEnd_iff.1 closes])
        rw [segmentsFrom_member index other inner]
        exact ih endless.2

/-- A segment that is no closed block is walked through once. -/
theorem Segment.index_walk {segment : Segment} (notClosed : ∀ block, segment ≠ .closed block) :
    segment.walk.map Visit.index = segment.members := by
  cases segment with
  | single index => rfl
  | closed block => exact absurd rfl (notClosed block)
  | unclosed block => simp [walk, members, Block.pass, Function.comp_def]

end CanvasScript
