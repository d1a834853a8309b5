import CanvasScript.Proofs.Binary64.Order
import Mathlib.Algebra.Group.Nat.Defs

/-!
# Rounding to a rank

Rounding depends on the value alone and not on how it is written as a quotient
(`rankOf_mul_mul`). A finite magnitude is its own rounding (`rankOf_unitsOf`), what is far
beyond the greatest is rounded to infinity and what is less than half a unit to zero.
-/

namespace CanvasScript.Binary64

theorem span_eq : span = 2 ^ 52 := by decide

theorem nearest_mul_self (q : Nat) {den : Nat} (pos : 0 < den) : nearest (q * den) den = q := by
  unfold nearest
  rw [Nat.mul_mod_left, Nat.mul_div_cancel q pos]
  simp only [Nat.mul_zero, pos, if_true]

theorem nearest_mul_mul (num den : Nat) {c : Nat} (pos : 0 < c) : nearest (num * c) (den * c) = nearest num den := by
  unfold nearest
  rw [Nat.mul_div_mul_right _ _ pos, Nat.mul_mod_mul_right]
  simp only [← Nat.mul_assoc, Nat.mul_lt_mul_right pos, Nat.mul_left_inj (Nat.ne_of_gt pos)]

theorem nearest_of_small {num den : Nat} (small : 2 * num < den) : nearest num den = 0 := by
  unfold nearest
  rw [Nat.mod_eq_of_lt (by omega), if_pos small, Nat.div_eq_of_lt (by omega)]

/-- A quotient may be extended. -/
theorem rankOf_mul_mul (num den : Nat) {c : Nat} (pos : 0 < c) : rankOf (num * c) (den * c) = rankOf num den := by
  unfold rankOf
  rw [Nat.mul_div_mul_right _ _ pos]
  have swap (power : Nat) : den * c * power = den * power * c := Nat.mul_right_comm den c power
  simp only [swap, nearest_mul_mul _ _ pos]

theorem rankOf_zero (den : Nat) : rankOf 0 den = 0 := by
  unfold rankOf nearest
  by_cases none : den = 0
  · simp [none]
  · simp [Nat.pos_of_ne_zero none]

/-- What is less than half a unit has rank zero. -/
theorem rankOf_of_small {num den : Nat} (small : 2 * num < den) : rankOf num den = 0 := by
  unfold rankOf
  rw [Nat.div_eq_of_lt (by omega)]
  show Min.min (0 * span + nearest num (den * 1)) infinityRank = 0
  rw [Nat.mul_one, nearest_of_small small, Nat.zero_mul, Nat.zero_min]

/-- What is far beyond the greatest finite magnitude has the rank of infinity. -/
theorem rankOf_of_large {num den bits : Nat} (far : 2099 ≤ bits) (pos : 0 < den) (large : 2 ^ bits * den ≤ num) :
    rankOf num den = infinityRank := by
  have quotient : 2 ^ bits ≤ num / den := (Nat.le_div_iff_mul_le pos).2 large
  have nonzero : num / den ≠ 0 := by
    have := Nat.two_pow_pos bits
    omega
  have exponent : bits ≤ (num / den).log2 := (Nat.le_log2 nonzero).2 quotient
  have beyond : infinityRank ≤ ((num / den).log2 - 52) * span :=
    Nat.mul_le_mul_right span (by omega : 2047 ≤ (num / den).log2 - 52)
  exact Nat.min_eq_right (Nat.le_trans beyond (Nat.le_add_right _ _))

theorem nearest_le_succ (num den : Nat) : nearest num den ≤ num / den + 1 := by
  unfold nearest
  dsimp only
  split
  · omega
  · split <;> omega

/-- The rank of a whole number of units. -/
theorem rankOf_one (n : Nat) :
    rankOf n 1 = Min.min ((n.log2 - 52) * span + nearest n (2 ^ (n.log2 - 52))) infinityRank := by
  rw [rankOf, Nat.div_one]
  show Min.min ((n.log2 - 52) * span + nearest n (1 * 2 ^ (n.log2 - 52))) infinityRank = _
  rw [Nat.one_mul]

/-- A number has at most 53 bits when it is cut. -/
theorem div_lt_two_mul_span (n : Nat) : n / 2 ^ (n.log2 - 52) < 2 * span := by
  rw [Nat.div_lt_iff_lt_mul (Nat.two_pow_pos _), span_eq, ← Nat.pow_succ', ← Nat.pow_add]
  calc n
    _ < 2 ^ (n.log2 + 1) := Nat.lt_log2_self
    _ ≤ 2 ^ (52 + 1 + (n.log2 - 52)) := Nat.pow_le_pow_right (by decide) (by omega)

/-- What is far below the greatest finite magnitude has a finite rank. -/
theorem rankOf_lt_infinityRank {num bits : Nat} (near : bits ≤ 2097) (small : num < 2 ^ bits) :
    rankOf num 1 < infinityRank := by
  have pos := span_pos
  by_cases none : num = 0
  · rw [none, rankOf_zero]
    exact Nat.mul_pos (by decide) pos
  · have log : num.log2 < bits := (Nat.log2_lt none).2 small
    have mantissa := div_lt_two_mul_span num
    have rounded := nearest_le_succ num (2 ^ (num.log2 - 52))
    have exponent : (num.log2 - 52) * span ≤ 2044 * span := Nat.mul_le_mul_right span (by omega)
    have rank : (num.log2 - 52) * span + nearest num (2 ^ (num.log2 - 52)) < infinityRank := by
      show _ < 2047 * span
      omega
    rw [rankOf_one, Nat.min_eq_left rank.le]
    exact rank

/-- A finite magnitude is its own rounding. -/
theorem rankOf_unitsOf {rank : Nat} (finite : rank < infinityRank) : rankOf (unitsOf rank) 1 = rank := by
  have pos := span_pos
  rw [rankOf_one]
  by_cases small : rank < span
  · have units : unitsOf rank = rank := if_pos small
    have exponent : rank.log2 - 52 = 0 := by
      by_cases zero : rank = 0
      · rw [zero]
        rfl
      · have : rank.log2 < 52 := (Nat.log2_lt zero).2 small
        omega
    rw [units, exponent]
    show Min.min (0 * span + nearest rank 1) infinityRank = rank
    have here := nearest_mul_self rank Nat.one_pos
    rw [Nat.mul_one] at here
    rw [here]
    omega
  · have units : unitsOf rank = (rank % span + span) * 2 ^ (rank / span - 1) := if_neg small
    have parts := Nat.div_add_mod rank span
    have rest := Nat.mod_lt rank pos
    have blocks : 1 ≤ rank / span := (Nat.one_le_div_iff pos).2 (by omega)
    have power := Nat.two_pow_pos (rank / span - 1)
    have exponent : (unitsOf rank).log2 - 52 = rank / span - 1 := by
      have log : (unitsOf rank).log2 = 52 + (rank / span - 1) := by
        rw [units, Nat.log2_eq_iff (Nat.ne_of_gt (Nat.mul_pos (by omega) power)), Nat.pow_succ, Nat.pow_add,
          ← span_eq]
        constructor
        · exact Nat.mul_le_mul_right _ (by omega)
        · rw [Nat.mul_right_comm]
          exact Nat.mul_lt_mul_of_pos_right (by omega) power
      omega
    rw [exponent, units, nearest_mul_self _ power]
    have back : (rank / span - 1) * span + (rank % span + span) = rank := by
      calc (rank / span - 1) * span + (rank % span + span)
        _ = (rank / span - 1 + 1) * span + rank % span := by rw [Nat.succ_mul]; omega
        _ = rank := by rw [Nat.sub_add_cancel blocks, Nat.mul_comm, parts]
    rw [back]
    exact Nat.min_eq_left (Nat.le_of_lt finite)

end CanvasScript.Binary64
