import CanvasScript.Instruction
import CanvasScript.Proofs.Binary64.Order
import Mathlib.Order.Bounds.Defs

/-!
# How often the body of a loop runs

The body of a loop runs once and then again as long as the passes done are below
the count. `isLeast_rounds` states the number of passes in those words. The counter at
which a loop ends gives the number of passes that a run makes (`another_run_iff`), which
is the same as long as the count fits 64 bits (`runs_eq_rounds`). The passes are numbered
from the start of the loop on, and `number_bounds` says when these numbers have 64 bits.
-/

namespace CanvasScript.LoopSpec

open Binary64 (scale int64Bound)

/-- So many passes are not below the count; a count that is missing or not finite asks for none. -/
def MetBy (spec : LoopSpec) (passes : Nat) : Prop :=
  ∀ n, spec.count = some n → n.isFinite = true → n.signedUnits ≤ (passes : Int) * scale

/-- The count is below all that does not fit the integers of 64 bits. -/
def CountFits (spec : LoopSpec) : Prop :=
  ∀ n, spec.count = some n → n.isFinite = true → n.lt (Binary64.ofNat int64Bound) = true

/-- The passes of the body: the count rounded up, and one at least. -/
def rounds (spec : LoopSpec) : Nat :=
  match spec.count with
  | some n => if n.isFinite then max 1 n.ceiling.toNat else 1
  | none => 1

theorem rounds_pos (spec : LoopSpec) : 0 < spec.rounds := by
  unfold rounds
  split
  · split <;> omega
  · exact Nat.one_pos

/-- The body runs the least number of times, one at least, that is not below the count. -/
theorem isLeast_rounds (spec : LoopSpec) : IsLeast {k | 1 ≤ k ∧ spec.MetBy k} spec.rounds := by
  refine ⟨⟨spec.rounds_pos, ?_⟩, ?_⟩
  · intro n count finite
    rw [← Binary64.ceiling_le_iff]
    simp only [rounds, count, finite, if_true]
    omega
  · rintro k ⟨one_le, met⟩
    unfold rounds
    split
    · rename_i n count
      split
      · rename_i finite
        have := Binary64.ceiling_le_iff.2 (met n count finite)
        omega
      · exact one_le
    · exact one_le

/-- A count that fits is rounded up to an integer of 64 bits: the greatest number below
the bound is a whole one. -/
theorem ceiling_lt_of_fits {n : Binary64} (finite : n.isFinite = true)
    (fits : n.lt (Binary64.ofNat int64Bound) = true) : n.ceiling < int64Bound := by
  have bound_finite : (Binary64.ofNat int64Bound).isFinite = true := by decide +kernel
  have positive : (Binary64.ofNat int64Bound).negative = false := by decide +kernel
  have last : Binary64.unitsOf ((Binary64.ofNat int64Bound).rank - 1) ≤ (int64Bound - 1) * scale := by
    decide +kernel
  have below := Binary64.order_lt_iff.2 ((Binary64.lt_iff finite bound_finite).1 fits)
  have units_le : n.signedUnits ≤ ((int64Bound - 1 : Nat) : Int) * scale :=
    Int.le_trans (Binary64.signedUnits_le_pred positive below) (by exact_mod_cast last)
  have := Binary64.ceiling_le_iff.2 units_le
  unfold int64Bound at this ⊢
  omega

/-- A number that is not above zero is cut off to one that is not either. -/
theorem toInt64_nonpos {n : Binary64} (finite : n.isFinite = true) (h : n.signedUnits ≤ 0) :
    n.toInt64 ≤ 0 := by
  have cut : n.truncated ≤ 0 := by
    have := Int.tdiv_nonneg (Int.neg_nonneg_of_nonpos h) (Int.natCast_nonneg scale)
    rw [Int.neg_tdiv] at this
    exact Int.nonpos_of_neg_nonneg this
  have within : n.isInfinite = false := by
    simp only [Binary64.isFinite, decide_eq_true_eq] at finite
    simp only [Binary64.isInfinite, beq_eq_false_iff_ne]
    omega
  rw [Binary64.toInt64, Binary64.isNaN_of_isFinite finite, within]
  simp only [Bool.false_eq_true, if_false, Binary64.clamp64, Binary64.int64Bound]
  omega

theorem toInt64_bounds (n : Binary64) : -(int64Bound : Int) ≤ n.toInt64 ∧ n.toInt64 < int64Bound := by
  unfold Binary64.toInt64 Binary64.clamp64 int64Bound
  split
  · omega
  · split
    · split <;> omega
    · omega

theorem offset_bounds (spec : LoopSpec) : -(int64Bound : Int) ≤ spec.offset ∧ spec.offset < int64Bound := by
  have zero : -(int64Bound : Int) ≤ 0 ∧ (0 : Int) < int64Bound := by decide
  unfold offset
  split
  · split
    · exact toInt64_bounds _
    · exact zero
  · exact zero

theorem passes_lt (spec : LoopSpec) : spec.passes < int64Bound := by
  have one : (1 : Int) < int64Bound := by decide
  unfold passes
  split
  · split
    · unfold Binary64.clamp64 int64Bound
      omega
    · split
      · exact (toInt64_bounds _).2
      · exact one
  · exact one

/-- The counter at which a loop ends is the number of passes, unless that counter comes
before the first of them. -/
theorem passes_eq_rounds_or (spec : LoopSpec) (fits : spec.CountFits) :
    spec.passes = spec.rounds ∨ spec.passes ≤ 0 ∧ spec.rounds = 1 := by
  unfold passes rounds
  cases count : spec.count with
  | none => exact .inl rfl
  | some n =>
    dsimp only
    cases finite : n.isFinite with
    | false => simp
    | true =>
      have zero_lt := Binary64.lt_iff Binary64.isFinite_zero finite
      rw [Binary64.signedUnits_zero] at zero_lt
      simp only [Bool.true_and, if_true]
      cases above : Binary64.zero.lt n with
      | true =>
        have lower : ¬ n.ceiling ≤ 0 := by
          rw [Binary64.ceiling_le_iff]
          have := zero_lt.1 above
          omega
        have upper := ceiling_lt_of_fits finite (fits n count finite)
        left
        simp only [if_true, Binary64.clamp64]
        omega
      | false =>
        have nonpos : n.signedUnits ≤ 0 := by
          rw [← Int.not_lt, ← zero_lt, above]
          exact Bool.false_ne_true
        have one : max 1 n.ceiling.toNat = 1 := by
          have : n.ceiling ≤ 0 := Binary64.ceiling_le_iff.2 (by omega)
          omega
        rw [one]
        simp only [Bool.false_eq_true, if_false]
        split
        · exact .inr ⟨toInt64_nonpos finite nonpos, trivial⟩
        · exact .inl rfl

/-- How often a run goes through the body: until the counter at which the loop ends, and once at least. -/
def runs (spec : LoopSpec) : Nat := max 1 spec.passes.toNat

theorem runs_pos (spec : LoopSpec) : 0 < spec.runs := by
  unfold runs
  omega

theorem runs_le (spec : LoopSpec) : spec.runs ≤ int64Bound := by
  have below := spec.passes_lt
  unfold runs
  unfold int64Bound at below ⊢
  omega

/-- A run goes through the body as often as the count asks for, if that fits. -/
theorem runs_eq_rounds (spec : LoopSpec) (fits : spec.CountFits) : spec.runs = spec.rounds := by
  have positive := spec.rounds_pos
  unfold runs
  rcases spec.passes_eq_rounds_or fits with same | ⟨before, one⟩ <;> omega

/-- The numbers of the passes, counted from the start of the loop, have 64 bits. -/
def NumbersFit (spec : LoopSpec) : Prop := spec.offset + spec.passes ≤ int64Bound

theorem number_bounds {spec : LoopSpec} (fits : spec.NumbersFit) {counter : Nat} (within : counter < spec.runs) :
    -(int64Bound : Int) ≤ spec.offset + counter ∧ spec.offset + counter < int64Bound := by
  obtain ⟨least, most⟩ := spec.offset_bounds
  unfold NumbersFit at fits
  unfold runs at within
  omega

/-- Behind a pass another follows exactly when fewer are done than a run goes through. -/
theorem another_run_iff (spec : LoopSpec) (done : Nat) : (done : Int) + 1 < spec.passes ↔ done + 1 < spec.runs := by
  unfold runs
  omega

end CanvasScript.LoopSpec
