import CanvasScript.Binary64
import Mathlib.Order.Monotone.Basic

/-!
# The order of floating-point numbers

Numbers are compared by rank, and a rank stands for a whole number of units.
`unitsOf_strictMono` says that the two orders are one, so comparing finite numbers
is comparing their exact values (`le_iff`, `lt_iff`). Rounding up is then the least
integer that is not below a number (`ceiling_le_iff`), and whole numbers are integers
(`isWhole_iff`).
-/

namespace CanvasScript.Binary64

theorem span_pos : 0 < span := by decide

theorem scale_pos : 0 < scale := by
  unfold scale
  generalize 1074 = exponent
  exact Nat.two_pow_pos exponent

theorem unitsOf_zero : unitsOf 0 = 0 := rfl

/-- The next rank has more units, also where the next power of two begins. -/
theorem unitsOf_lt_succ (rank : Nat) : unitsOf rank < unitsOf (rank + 1) := by
  have pos := span_pos
  by_cases small : rank + 1 < 2 * span
  · rw [unitsOf_small small, unitsOf_small (by omega)]
    exact Nat.lt_succ_self rank
  · have div_pos : 1 ≤ rank / span := (Nat.one_le_div_iff pos).2 (by omega)
    have split_rank := Nat.div_add_mod rank span
    have rest := Nat.mod_lt rank pos
    unfold unitsOf
    rw [if_neg (by omega), if_neg (by omega)]
    by_cases more : rank % span + 1 < span
    · -- both ranks lie between the same powers of two
      have next : rank + 1 = rank % span + 1 + span * (rank / span) := by omega
      rw [next, Nat.add_mul_div_left _ _ pos, Nat.add_mul_mod_self_left, Nat.div_eq_of_lt more,
        Nat.mod_eq_of_lt more, Nat.zero_add]
      exact Nat.mul_lt_mul_of_pos_right (by omega) (Nat.two_pow_pos _)
    · have next : rank + 1 = span * (rank / span + 1) := by rw [Nat.mul_succ]; omega
      rw [next, Nat.mul_mod_right, Nat.mul_div_cancel_left _ pos, Nat.add_sub_cancel, Nat.zero_add]
      have double : (2 : Nat) ^ (rank / span) = 2 * 2 ^ (rank / span - 1) := by
        rw [← Nat.pow_succ', Nat.succ_eq_add_one, Nat.sub_add_cancel div_pos]
      show _ * 2 ^ (rank / span - 1) < span * 2 ^ (rank / span)
      rw [double, ← Nat.mul_assoc]
      exact Nat.mul_lt_mul_of_pos_right (by omega) (Nat.two_pow_pos _)

/-- Ranks are in the order of their units. -/
theorem unitsOf_strictMono : StrictMono unitsOf := strictMono_nat_of_lt_succ unitsOf_lt_succ

theorem isNaN_of_isFinite {x : Binary64} (h : x.isFinite = true) : x.isNaN = false := by
  simp only [isFinite, decide_eq_true_eq] at h
  simp only [isNaN, beq_eq_false_iff_ne]
  omega

/-- The rank with its sign orders numbers as their units do. -/
theorem order_le_iff {x y : Binary64} : x.order ≤ y.order ↔ x.signedUnits ≤ y.signedUnits := by
  have same := unitsOf_strictMono.le_iff_le (a := x.rank) (b := y.rank)
  have back := unitsOf_strictMono.le_iff_le (a := y.rank) (b := x.rank)
  have none_x := unitsOf_strictMono.le_iff_le (a := x.rank) (b := 0)
  have none_y := unitsOf_strictMono.le_iff_le (a := y.rank) (b := 0)
  rw [unitsOf_zero] at none_x none_y
  unfold order signedUnits units
  cases x.negative <;> cases y.negative <;> simp only [if_true, if_false, Bool.false_eq_true] <;> omega

theorem order_lt_iff {x y : Binary64} : x.order < y.order ↔ x.signedUnits < y.signedUnits := by
  rw [← Int.not_le, order_le_iff, Int.not_le]

/-- Between a positive number and the one before it there is no other. -/
theorem signedUnits_le_pred {x y : Binary64} (positive : y.negative = false) (h : x.order < y.order) :
    x.signedUnits ≤ unitsOf (y.rank - 1) := by
  unfold order at h
  unfold signedUnits units
  rw [positive] at h
  cases sign : x.negative with
  | true =>
    simp only [if_true]
    omega
  | false =>
    simp only [sign, Bool.false_eq_true, if_false] at h ⊢
    have := unitsOf_strictMono.monotone (show x.rank ≤ y.rank - 1 by omega)
    omega

/-- Finite numbers compare as their exact values. -/
theorem le_iff {x y : Binary64} (hx : x.isFinite = true) (hy : y.isFinite = true) :
    x.le y = true ↔ x.signedUnits ≤ y.signedUnits := by
  simp [le, isNaN_of_isFinite hx, isNaN_of_isFinite hy, order_le_iff]

theorem lt_iff {x y : Binary64} (hx : x.isFinite = true) (hy : y.isFinite = true) :
    x.lt y = true ↔ x.signedUnits < y.signedUnits := by
  simp [lt, isNaN_of_isFinite hx, isNaN_of_isFinite hy, order_lt_iff]

theorem natAbs_order (x : Binary64) : x.order.natAbs = x.rank := by
  unfold order
  split <;> omega

theorem order_of_le {x y : Binary64} (h : x.le y = true) : x.order ≤ y.order :=
  of_decide_eq_true (Bool.and_eq_true_iff.1 h).2

/-- A number between two finite ones is finite. -/
theorem isFinite_of_order {x y z : Binary64} (least : x.isFinite = true) (most : z.isFinite = true)
    (above : x.order ≤ y.order) (below : y.order ≤ z.order) : y.isFinite = true := by
  simp only [isFinite, decide_eq_true_eq, ← natAbs_order] at least most ⊢
  omega

theorem signedUnits_zero : zero.signedUnits = 0 := rfl

theorem isFinite_zero : zero.isFinite = true := by decide

section Min

variable {x y : Binary64}

theorem min_eq (hx : x.isFinite = true) (hy : y.isFinite = true) :
    x.min y = if x.signedUnits < y.signedUnits then x else y := by
  rw [min, isNaN_of_isFinite hx, isNaN_of_isFinite hy]
  simp only [Bool.false_eq_true, if_false, lt_iff hx hy]

theorem isFinite_min (hx : x.isFinite = true) (hy : y.isFinite = true) : (x.min y).isFinite = true := by
  rw [min_eq hx hy]
  split
  · exact hx
  · exact hy

/-- The lesser of two finite numbers is the lesser of their exact values. -/
theorem signedUnits_min (hx : x.isFinite = true) (hy : y.isFinite = true) :
    (x.min y).signedUnits = Min.min x.signedUnits y.signedUnits := by
  rw [min_eq hx hy]
  split <;> omega

end Min

/-- Rounding up gives the least integer that is not below. -/
theorem ceiling_le_iff {x : Binary64} {k : Int} : x.ceiling ≤ k ↔ x.signedUnits ≤ k * scale := by
  have pos : (0 : Int) < scale := by exact_mod_cast scale_pos
  have turn : x.ceiling ≤ k ↔ -k ≤ -x.signedUnits / scale := by
    unfold ceiling
    rw [Int.fdiv_eq_ediv_of_nonneg _ (Int.le_of_lt pos)]
    generalize -x.signedUnits / (scale : Int) = q
    omega
  rw [turn, Int.le_ediv_iff_mul_le pos, Int.neg_mul, Int.neg_le_neg_iff]

/-- A number is just an integer. -/
def Equals (x : Binary64) (n : Int) : Prop := x.isFinite = true ∧ x.signedUnits = n * scale

/-- Whole numbers are those that are an integer. -/
theorem isWhole_iff {x : Binary64} : x.isWhole = true ↔ ∃ n, x.Equals n := by
  have dvd : (∃ n : Int, x.signedUnits = n * scale) ↔ (scale : Int) ∣ x.units := by
    constructor
    · rintro ⟨n, hn⟩
      have : (scale : Int) ∣ x.signedUnits := ⟨n, by rw [hn, Int.mul_comm]⟩
      unfold signedUnits at this
      split at this
      · exact (Int.dvd_neg.1 this)
      · exact this
    · rintro ⟨n, hn⟩
      unfold signedUnits
      split
      · exact ⟨-n, by rw [hn, Int.neg_mul, Int.mul_comm]⟩
      · exact ⟨n, by rw [hn, Int.mul_comm]⟩
  unfold Equals
  rw [exists_and_left, dvd, Int.natCast_dvd_natCast, Nat.dvd_iff_mod_eq_zero]
  simp [isWhole]

/-- Integers compare as the numbers that they are. -/
theorem le_iff_of_equals {x y : Binary64} {m n : Int} (hx : x.Equals m) (hy : y.Equals n) :
    x.le y = true ↔ m ≤ n := by
  rw [le_iff hx.1 hy.1, hx.2, hy.2]
  exact Int.mul_le_mul_iff_of_pos_right (by exact_mod_cast scale_pos)

end CanvasScript.Binary64
