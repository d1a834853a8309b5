import CanvasScript.Proofs.Binary64.Rounding
import CanvasScript.Proofs.Decimal.ReadBack

/-!
# Integers among the floating-point numbers

An integer within 64 bits has a finite nearest number (`isFinite_ofInt`). A number that is
just an integer is what that integer becomes (`ofInt_of_equals`), but for the sign of zero.
-/

namespace CanvasScript.Binary64

variable {x y : Binary64} {n : Int}

/-- The number with one zero, the one without a sign. -/
def canonical (x : Binary64) : Binary64 := if x.isZero then zero else x

section Canonical

theorem canonical_of_ne_zero (nonzero : x.isZero = false) : x.canonical = x := by
  rw [canonical, nonzero]
  rfl

theorem isFinite_canonical (finite : x.isFinite = true) : x.canonical.isFinite = true := by
  unfold canonical
  split
  · exact isFinite_zero
  · exact finite

theorem units_eq_zero_iff : x.units = 0 ↔ x.isZero = true := by
  rw [units, ← unitsOf_zero, unitsOf_strictMono.injective.eq_iff]
  simp [isZero]

/-- Both zeros are the integer zero. -/
theorem equals_zero_of_isZero (nothing : x.isZero = true) : x.Equals 0 := by
  have rank : x.rank = 0 := by simpa [isZero] using nothing
  refine ⟨decide_eq_true (rank ▸ Nat.mul_pos (by decide) span_pos), ?_⟩
  rw [signedUnits, units_eq_zero_iff.2 nothing, Int.zero_mul]
  split <;> rfl

theorem signedUnits_canonical (x : Binary64) : x.canonical.signedUnits = x.signedUnits := by
  cases nothing : x.isZero with
  | false => rw [canonical_of_ne_zero nothing]
  | true =>
    rw [(equals_zero_of_isZero nothing).2, canonical, nothing, if_pos rfl, signedUnits_zero, Int.zero_mul]

end Canonical

section Equals

theorem truncated_of_equals (equals : x.Equals n) : x.truncated = n := by
  have pos : (scale : Int) ≠ 0 := by exact_mod_cast scale_pos.ne'
  rw [truncated, equals.2, Int.mul_tdiv_cancel _ pos]

theorem units_of_equals (equals : x.Equals n) : x.units = n.natAbs * scale := by
  have same := congrArg Int.natAbs equals.2
  rw [Int.natAbs_mul, Int.natAbs_natCast] at same
  rw [← same, signedUnits]
  split <;> simp

/-- A number that is an integer is the number that the integer becomes. -/
theorem ofInt_of_equals (equals : x.Equals n) : ofInt n = x.canonical := by
  have units := units_of_equals equals
  have pos := scale_pos
  cases nothing : x.isZero with
  | true =>
    have zero : n.natAbs * scale = 0 := units ▸ units_eq_zero_iff.2 nothing
    obtain rfl : n = 0 := Int.natAbs_eq_zero.1 ((Nat.mul_eq_zero.1 zero).resolve_right pos.ne')
    rw [canonical, nothing, ofInt, zero, ofUnits_eq_zero _ (rankOf_zero 1)]
    rfl
  | false =>
    have some : x.units ≠ 0 := by
      rw [ne_eq, units_eq_zero_iff, nothing]
      decide
    have sign : decide (n < 0) = x.negative := by
      have scaled : n * scale < 0 ↔ n < 0 := by
        rw [← Int.not_le, Int.mul_nonneg_iff_of_pos_right (by exact_mod_cast pos), Int.not_le]
      rw [Bool.eq_iff_iff, decide_eq_true_iff, ← scaled, ← equals.2, signedUnits]
      cases x.negative <;> simp
      omega
    rw [canonical_of_ne_zero nothing, ofInt, sign, ← units, ofUnits_units equals.1]

end Equals

/-- The units of a whole number have as many bits more as there are units in one. -/
theorem mul_scale_lt {m bits : Nat} (small : m < 2 ^ bits) : m * scale < 2 ^ (bits + 1074) := by
  unfold scale
  generalize 1074 = places
  rw [Nat.pow_add]
  exact Nat.mul_lt_mul_of_pos_right small (Nat.two_pow_pos places)

/-- Integers within 64 bits are far from infinity. -/
theorem isFinite_ofInt (small : n.natAbs ≤ 2 ^ 64) : (ofInt n).isFinite = true := by
  have bits : n.natAbs < 2 ^ 65 := Nat.lt_of_le_of_lt small (by decide)
  exact decide_eq_true (rankOf_lt_infinityRank (by decide : 65 + 1074 ≤ 2097) (mul_scale_lt bits))

end CanvasScript.Binary64
