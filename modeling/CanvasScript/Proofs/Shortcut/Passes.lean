import CanvasScript.Shortcut.Passes

/-!
# How many passes a limit allows

Under a cap of `n` resolving fails after `max 1 n` passes that change the text, since they are
counted and one of them is made before the count is first checked. So every limit allows a number
of passes and has an error of its own (`Limit.settle_eq`), and resolving is a loop with so many
passes left (`untilStable`).
-/

namespace CanvasScript.Shortcut

variable {pass : List Char → Resolving (List Char)} {text next : List Char} {d d' : Draws}

/-- The text when a pass leaves it as it is, at most `left` passes being made. -/
def untilStable (pass : List Char → Resolving (List Char)) (error : ResolveError) :
    (left : Nat) → List Char → Resolving (List Char)
  | 0, _ => .fail error
  | left + 1, text => do
    let next ← pass text
    if next = text then return text else untilStable pass error left next

/-- A text that a pass leaves as it is settles at once. -/
theorem run_untilStable_of_stable (h : (pass text).run d = (.ok text, d')) (error : ResolveError) (left : Nat) :
    (untilStable pass error (left + 1) text).run d = (.ok text, d') := by
  rw [untilStable, Attempt.run_bind_ok h]
  simp

/-- A pass that changes the text takes one from those left. -/
theorem run_untilStable_of_change (h : (pass text).run d = (.ok next, d')) (change : next ≠ text)
    (error : ResolveError) (left : Nat) :
    (untilStable pass error (left + 1) text).run d = (untilStable pass error left next).run d' := by
  rw [untilStable, Attempt.run_bind_ok h]
  simp [change]

/-- Two loops are the same when they go on alike behind a pass that changes the text. -/
theorem bind_congr_of_change {onward onward' : List Char → Resolving (List Char)}
    (same : ∀ next, next ≠ text → onward next = onward' next) :
    (do let next ← pass text; if next = text then return text else onward next) =
      (do let next ← pass text; if next = text then return text else onward' next) := by
  congr 1
  funext next
  split
  · rfl
  · exact same next ‹_›

theorem settleFrom_uncapped (fuel count : Nat) (text : List Char) :
    settleFrom pass none fuel count text = untilStable pass .unfinished fuel text := by
  induction fuel generalizing count text with
  | zero => rfl
  | succ fuel ih =>
    apply bind_congr_of_change
    intro next _
    exact ih (count + 1) next

/-- The count and the passes left make up the number of passes that the cap allows. -/
theorem settleFrom_capped {cap fuel count left : Nat} (sum : count + (left + 1) = max 1 cap) (enough : left < fuel)
    (text : List Char) :
    settleFrom pass (some cap) fuel count text = untilStable pass (.didNotConverge (max 1 cap)) (left + 1) text := by
  induction left generalizing fuel count text with
  | zero =>
    obtain ⟨fuel, rfl⟩ := Nat.exists_eq_add_of_lt enough
    rw [Nat.zero_add]
    apply bind_congr_of_change
    intro next _
    have reached : cap ≤ count + 1 := by omega
    have here : checkPasses (count + 1) (some cap) = .fail (.didNotConverge (max 1 cap)) := by
      rw [checkPasses, if_pos reached, ← sum]
    rw [here]
    rfl
  | succ left ih =>
    obtain ⟨fuel, rfl⟩ := Nat.exists_eq_add_of_lt enough
    apply bind_congr_of_change
    intro next _
    have below : ¬cap ≤ count + 1 := by omega
    have here : checkPasses (count + 1) (some cap) = pure () := by
      rw [checkPasses, if_neg below]
    rw [here]
    exact ih (by omega) (by omega) next

namespace Limit

/-- How many passes are made at most. -/
def passes : Limit → Nat
  | capped cap => max 1 cap
  | uncapped fuel => fuel

/-- What is said when all of them changed the text. -/
def error : Limit → ResolveError
  | capped cap => .didNotConverge (max 1 cap)
  | uncapped _ => .unfinished

/-- **Every limit allows a number of passes**, and fails with its own error when all of them
change the text. -/
theorem settle_eq (limit : Limit) (pass : List Char → Resolving (List Char)) (text : List Char) :
    limit.settle pass text = untilStable pass limit.error limit.passes text := by
  cases limit with
  | uncapped fuel => exact settleFrom_uncapped fuel 0 text
  | capped cap =>
    have settled : settleFrom pass (some cap) (cap + 1) 0 text = untilStable pass _ (max 1 cap - 1 + 1) text :=
      settleFrom_capped (by omega) (by omega) text
    rw [Nat.sub_add_cancel (Nat.le_max_left 1 cap)] at settled
    exact settled

/-- Where a pass is made at all, the first one settles a text that it leaves as it is. -/
theorem run_settle_of_stable {limit : Limit} (some_pass : limit.passes ≠ 0)
    (stable : (pass text).run d = (.ok text, d')) : (limit.settle pass text).run d = (.ok text, d') := by
  obtain ⟨left, passes⟩ := Nat.exists_eq_succ_of_ne_zero some_pass
  rw [settle_eq, passes]
  exact run_untilStable_of_stable stable limit.error left

end Limit

end CanvasScript.Shortcut
