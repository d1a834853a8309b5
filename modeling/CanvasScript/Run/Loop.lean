import CanvasScript.Instruction
import CanvasScript.Json.Value

/-!
# The loop of a run

At most one loop is active. Its frame tells where it started, how many passes are
done and at which counter it ends; it never lies behind the position of a run
(`Position`).
-/

namespace CanvasScript

/-- The active loop. -/
structure LoopFrame where
  /-- The step that started the loop. -/
  marker : Nat
  counter : Int
  /-- The counter at which the loop ends. -/
  passes : Int
  /-- The number of the first pass. -/
  offset : Int
  deriving DecidableEq

namespace LoopFrame

/-- The frame of a loop that starts at a step. -/
def start (marker : Nat) (spec : LoopSpec) : LoopFrame :=
  { marker, counter := 0, passes := spec.passes, offset := spec.offset }

/-- The frame with another pass done. -/
def advance (frame : LoopFrame) : LoopFrame := { frame with counter := frame.counter + 1 }

/-- A further pass follows. -/
def continues (frame : LoopFrame) : Bool := decide (frame.counter < frame.passes)

open Json (Value) in
def toJson (frame : LoopFrame) : Value :=
  .object
    [("markerIndex", .int frame.marker), ("counter", .int frame.counter), ("maxLoops", .int frame.passes),
      ("startOffset", .int frame.offset)]

end LoopFrame

/-- Where a run is: the step that is next and the active loop, which started before. -/
structure Position where
  pointer : Nat
  frame : Option LoopFrame
  marker_le : ∀ f, frame = some f → f.marker ≤ pointer

namespace Position

def start : Position := { pointer := 0, frame := none, marker_le := by simp }

/-- The position at the next step. -/
def next (p : Position) : Position where
  pointer := p.pointer + 1
  frame := p.frame
  marker_le f h := Nat.le_succ_of_le (p.marker_le f h)

/-- The loop that is active while an instruction is carried out: `loop` starts one
where none is. -/
def entered (p : Position) (instruction : Instruction) : Option LoopFrame :=
  match instruction, p.frame with
  | .loop spec, none => some (LoopFrame.start p.pointer spec)
  | _, frame => frame

/-- The position behind a `loop`. -/
def enterLoop (p : Position) (spec : LoopSpec) : Position where
  pointer := p.pointer + 1
  frame := p.entered (.loop spec)
  marker_le f h := by
    unfold entered at h
    split at h
    · cases h
      exact Nat.le_succ _
    · exact Nat.le_succ_of_le (p.marker_le f (by assumption))

/-- The position behind a `loopEnd`: back at the start of the loop while passes are
left, and behind the step once they are done or without a loop. -/
def endLoop (p : Position) : Position :=
  match p.frame with
  | none => p.next
  | some frame =>
    if frame.advance.continues then
      { pointer := frame.marker, frame := some frame.advance, marker_le := by rintro _ ⟨⟩; exact Nat.le_refl _ }
    else { pointer := p.pointer + 1, frame := none, marker_le := by simp }

/-- The position behind an instruction, unless the run ends there. -/
def after? (p : Position) : Instruction → Option Position
  | .loop spec => some (p.enterLoop spec)
  | .loopEnd => some p.endLoop
  | .finish => none
  | _ => some p.next

/-- How far a run of `length` steps is from its end, in parts: the loops to come, the
passes left in the active one, and the steps left in a pass. -/
def remaining (length : Nat) (p : Position) : Nat × Nat × Nat :=
  match p.frame with
  | none => (2 * length - 2 * p.pointer, 0, length - p.pointer)
  | some frame =>
    (2 * length - (2 * frame.marker + 1), (frame.passes - frame.counter).toNat, length - p.pointer)

/-- One position is nearer to the end of a run of `length` steps than another. -/
def Nearer (length : Nat) (q p : Position) : Prop :=
  Prod.Lex (· < ·) (Prod.Lex (· < ·) (· < ·)) (q.remaining length) (p.remaining length)

theorem next_nearer {length : Nat} {p : Position} (h : p.pointer < length) : p.next.Nearer length p := by
  unfold Nearer remaining
  rcases hf : p.frame with _ | frame
  · simp only [next, hf]
    exact Prod.Lex.left _ _ (by omega)
  · simp only [next, hf]
    exact Prod.Lex.right _ (Prod.Lex.right _ (by omega))

theorem enterLoop_nearer {length : Nat} {p : Position} (h : p.pointer < length) (spec : LoopSpec) :
    (p.enterLoop spec).Nearer length p := by
  rcases hf : p.frame with _ | frame
  · unfold Nearer remaining
    simp only [enterLoop, entered, hf, LoopFrame.start]
    exact Prod.Lex.left _ _ (by omega)
  · have same : p.enterLoop spec = p.next := by
      simp [enterLoop, entered, next, hf]
    rw [same]
    exact next_nearer h

theorem endLoop_nearer {length : Nat} {p : Position} (h : p.pointer < length) :
    p.endLoop.Nearer length p := by
  unfold endLoop
  split
  · exact next_nearer h
  · rename_i frame hf
    have bound := p.marker_le frame hf
    split
    · rename_i more
      have left : frame.counter + 1 < frame.passes := of_decide_eq_true more
      unfold Nearer remaining
      simp only [hf, LoopFrame.advance]
      exact Prod.Lex.right _ (Prod.Lex.left _ _ (by omega))
    · unfold Nearer remaining
      simp only [hf]
      exact Prod.Lex.left _ _ (by omega)

/-- Every instruction brings a run nearer to its end. -/
theorem after?_nearer {length : Nat} {p q : Position} {instruction : Instruction} (h : p.pointer < length)
    (eq : p.after? instruction = some q) : q.Nearer length p := by
  unfold after? at eq
  split at eq
  · cases eq
    exact enterLoop_nearer h _
  · cases eq
    exact endLoop_nearer h
  · cases eq
  · cases eq
    exact next_nearer h

end Position

end CanvasScript
