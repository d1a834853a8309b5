import CanvasScript.Proofs.Binary64.Integers

/-!
# Arithmetic on magnitudes

Whole numbers of units are rounded to those that have a rank (`unitsOf_rankOf`). What has 53 bits is kept
(`rounded_of_dvd`), and else rounding adds at most one part in `2 ^ 53` (`rounded_le`). Products and differences
of numbers that are not below zero are their exact values rounded (`hasUnits_mul`, `hasUnits_sub`), and rounding
down gives an integer (`equals_floor`).
-/

namespace CanvasScript.Binary64

section Rounded

variable {n : Nat}

/-- A whole number of units rounded to 53 bits, as if there were no greatest number. -/
def rounded (n : Nat) : Nat := nearest n (2 ^ (n.log2 - 52)) * 2 ^ (n.log2 - 52)

/-- The units of a rank that is given by its power of two and what is left. -/
theorem unitsOf_mul_span_add {exponent mantissa : Nat} (least : exponent = 0 ∨ span ≤ mantissa)
    (most : mantissa ≤ 2 * span) : unitsOf (exponent * span + mantissa) = mantissa * 2 ^ exponent := by
  have pos := span_pos
  rcases lt_or_ge mantissa span with below | above
  · obtain rfl : exponent = 0 := least.resolve_right (Nat.not_le.2 below)
    rw [Nat.zero_mul, Nat.zero_add, unitsOf_small (by omega), Nat.pow_zero, Nat.mul_one]
  · obtain ⟨rest, rfl⟩ := Nat.exists_eq_add_of_le above
    have large : ¬ exponent * span + (span + rest) < span := by omega
    unfold unitsOf
    rw [if_neg large]
    rcases Nat.lt_or_ge rest span with inside | full
    · -- the mantissa lies between two powers of two
      have rank : exponent * span + (span + rest) = rest + span * (exponent + 1) := by
        rw [Nat.mul_add, Nat.mul_comm]
        omega
      rw [rank, Nat.add_mul_mod_self_left, Nat.add_mul_div_left _ _ pos, Nat.mod_eq_of_lt inside,
        Nat.div_eq_of_lt inside, Nat.zero_add, Nat.add_sub_cancel, Nat.add_comm rest]
      rfl
    · obtain rfl : rest = span := by omega
      have rank : exponent * span + (span + span) = span * (exponent + 2) := by
        rw [Nat.mul_add, Nat.mul_comm]
        omega
      rw [rank, Nat.mul_mod_right, Nat.mul_div_cancel_left _ pos, Nat.zero_add]
      show span * 2 ^ (exponent + 1) = _
      rw [Nat.pow_succ', ← Nat.mul_assoc, Nat.mul_two]

/-- The nearest multiple is at most half too large. -/
theorem two_mul_nearest_mul_le (num den : Nat) : 2 * (nearest num den * den) ≤ 2 * num + den := by
  have parts := Nat.div_add_mod num den
  rw [Nat.mul_comm] at parts
  unfold nearest
  dsimp only
  split
  · omega
  · split
    next half =>
      have more : (num / den + num / den % 2) * den ≤ num / den * den + den := by
        have odd : num / den % 2 ≤ 1 := Nat.le_of_lt_succ (Nat.mod_lt _ Nat.two_pos)
        calc (num / den + num / den % 2) * den
          _ ≤ (num / den + 1) * den := Nat.mul_le_mul_right den (Nat.add_le_add_left odd _)
          _ = num / den * den + den := Nat.succ_mul _ _
      omega
    next _ other =>
      rw [Nat.add_mul]
      omega

theorem nearest_mul_of_dvd {num den : Nat} (pos : 0 < den) (dvd : den ∣ num) : nearest num den * den = num := by
  obtain ⟨quotient, rfl⟩ := dvd
  rw [Nat.mul_comm den, nearest_mul_self quotient pos]

theorem div_le_nearest (num den : Nat) : num / den ≤ nearest num den := by
  unfold nearest
  dsimp only
  split
  · exact Nat.le_refl _
  · split <;> omega

/-- A number of at least 53 bits has 53 when it is cut. -/
theorem span_le_div (large : 52 ≤ n.log2) : span ≤ n / 2 ^ (n.log2 - 52) := by
  have some : n ≠ 0 := by
    rintro rfl
    simp at large
  rw [Nat.le_div_iff_mul_le (Nat.two_pow_pos _), span_eq, ← Nat.pow_add, Nat.add_sub_cancel' large]
  exact Nat.log2_self_le some

/-- The rank that a whole number of units is rounded to has the rounded units, unless it is that of infinity. -/
theorem unitsOf_rankOf (finite : rankOf n 1 < infinityRank) : unitsOf (rankOf n 1) = rounded n := by
  have rank := rankOf_one n
  have below : (n.log2 - 52) * span + nearest n (2 ^ (n.log2 - 52)) < infinityRank := by
    rw [rankOf_one] at finite
    omega
  rw [Nat.min_eq_left (Nat.le_of_lt below)] at rank
  rw [rank, rounded]
  apply unitsOf_mul_span_add
  · rcases Nat.lt_or_ge n.log2 52 with small | large
    · left
      omega
    · right
      exact Nat.le_trans (span_le_div large) (div_le_nearest _ _)
  · exact Nat.le_trans (nearest_le_succ _ _) (div_lt_two_mul_span n)

/-- What has 53 bits is not rounded. -/
theorem rounded_of_dvd (dvd : 2 ^ (n.log2 - 52) ∣ n) : rounded n = n := nearest_mul_of_dvd (Nat.two_pow_pos _) dvd

theorem rounded_zero : rounded 0 = 0 := rounded_of_dvd (Nat.dvd_zero _)

/-- Rounding adds at most one part in `2 ^ 53`. -/
theorem rounded_le (n : Nat) : 2 ^ 53 * rounded n ≤ (2 ^ 53 + 1) * n := by
  rcases Nat.lt_or_ge n.log2 52 with small | large
  · have kept : rounded n = n := by
      apply rounded_of_dvd
      rw [Nat.sub_eq_zero_of_le (Nat.le_of_lt small)]
      exact Nat.one_dvd n
    rw [kept]
    omega
  · have cut : 2 ^ 52 * 2 ^ (n.log2 - 52) ≤ n := by
      rw [← span_eq, ← Nat.le_div_iff_mul_le (Nat.two_pow_pos _)]
      exact span_le_div large
    have error := two_mul_nearest_mul_le n (2 ^ (n.log2 - 52))
    rw [rounded]
    omega

/-- A whole number of at most 53 bits is not rounded. -/
theorem rounded_mul_scale {m : Nat} (small : m < 2 ^ 53) : rounded (m * scale) = m * scale := by
  apply rounded_of_dvd
  by_cases none : m = 0
  · rw [none, Nat.zero_mul]
    exact Nat.dvd_zero _
  · have bits : m.log2 < 53 := (Nat.log2_lt none).2 small
    unfold scale
    generalize 1074 = places
    show 2 ^ ((m * 2 ^ places).log2 - 52) ∣ m * 2 ^ places
    have log : (m * 2 ^ places).log2 = m.log2 + places := by
      rw [Nat.log2_eq_iff (Nat.mul_ne_zero none (Nat.two_pow_pos places).ne'), Nat.add_right_comm, Nat.pow_add,
        Nat.pow_add]
      constructor
      · exact Nat.mul_le_mul_right _ (Nat.log2_self_le none)
      · exact Nat.mul_lt_mul_of_pos_right Nat.lt_log2_self (Nat.two_pow_pos places)
    apply Nat.dvd_mul_left_of_dvd
    apply Nat.pow_dvd_pow
    omega

end Rounded

/-- A finite number that is not below zero, of some units. Its sign tells no more than which zero it is. -/
def HasUnits (x : Binary64) (n : Nat) : Prop := x.isFinite = true ∧ x.signedUnits = n

section HasUnits

variable {x y : Binary64} {m n bits : Nat}

theorem hasUnits_of_equals (equals : x.Equals n) : x.HasUnits (n * scale) := by
  refine ⟨equals.1, ?_⟩
  rw [equals.2, Int.natCast_mul]

theorem hasUnits_of_nonneg (finite : x.isFinite = true) (nonneg : 0 ≤ x.signedUnits) : x.HasUnits x.units := by
  refine ⟨finite, ?_⟩
  unfold signedUnits at nonneg ⊢
  split
  next sign =>
    rw [if_pos sign] at nonneg
    omega
  · rfl

theorem HasUnits.units (has : x.HasUnits n) : x.units = n := by
  have signed := has.2
  unfold signedUnits at signed
  split at signed <;> omega

/-- Only zero may have a sign. -/
theorem HasUnits.negative (has : x.HasUnits n) (some : n ≠ 0) : x.negative = false := by
  have signed := has.2
  unfold signedUnits at signed
  split at signed
  · omega
  next positive => exact Bool.eq_false_iff.2 positive

/-- The number nearest to a quotient that is a whole number of units. -/
theorem hasUnits_ofUnits {negative : Bool} {num den : Nat} (same : rankOf num den = rankOf n 1) (near : bits ≤ 2097)
    (small : n < 2 ^ bits) (sign : n ≠ 0 → negative = false) : (ofUnits negative num den).HasUnits (rounded n) := by
  have finite : rankOf n 1 < infinityRank := rankOf_lt_infinityRank near small
  have units : (ofUnits negative num den).units = rounded n := by
    rw [← unitsOf_rankOf finite, ← same]
    rfl
  rw [ofUnits_congr negative same] at units ⊢
  refine ⟨decide_eq_true finite, ?_⟩
  rw [signedUnits, units]
  by_cases none : n = 0
  · rw [none, rounded_zero]
    split <;> rfl
  · exact if_neg (Bool.eq_false_iff.1 (sign none))

/-- A whole number of at most 53 bits is a number. -/
theorem equals_ofNat (small : n < 2 ^ 53) : (ofNat n).Equals n := by
  have units : (ofNat n).HasUnits (rounded (n * scale)) := by
    apply hasUnits_ofUnits rfl (by decide : 53 + 1074 ≤ 2097) (mul_scale_lt small)
    intro _
    exact decide_eq_false (Int.not_lt.2 (Int.natCast_nonneg n))
  rw [rounded_mul_scale small] at units
  exact ⟨units.1, by rw [units.2, Int.natCast_mul]⟩

end HasUnits

section Operations

variable {x y : Binary64} {m n bits : Nat}

theorem isInfinite_of_isFinite (finite : x.isFinite = true) : x.isInfinite = false := by
  simp only [isFinite, decide_eq_true_eq] at finite
  simp only [isInfinite, beq_eq_false_iff_ne]
  omega

theorem mul_of_isFinite (left : x.isFinite = true) (right : y.isFinite = true) :
    x.mul y = ofUnits (x.negative != y.negative) (x.units * y.units) scale := by
  simp [mul, isNaN_of_isFinite left, isNaN_of_isFinite right, isInfinite_of_isFinite left, isInfinite_of_isFinite right]

theorem add_of_isFinite (left : x.isFinite = true) (right : y.isFinite = true) :
    x.add y =
      if x.signedUnits + y.signedUnits = 0 then { zero with negative := x.negative && y.negative }
      else ofUnits (decide (x.signedUnits + y.signedUnits < 0)) (x.signedUnits + y.signedUnits).natAbs 1 := by
  simp [add, isNaN_of_isFinite left, isNaN_of_isFinite right, isInfinite_of_isFinite left, isInfinite_of_isFinite right]

theorem signedUnits_neg (x : Binary64) : x.neg.signedUnits = -x.signedUnits := by
  unfold signedUnits neg units
  cases x.negative <;> simp

/-- A product with an integer is the exact one, rounded. -/
theorem hasUnits_mul (left : x.HasUnits m) (right : y.Equals n) (near : bits ≤ 2097) (small : m * n < 2 ^ bits) :
    (x.mul y).HasUnits (rounded (m * n)) := by
  have pos := scale_pos
  have right' := hasUnits_of_equals right
  rw [mul_of_isFinite left.1 right.1, left.units, right'.units]
  apply hasUnits_ofUnits _ near small
  · intro some
    have signless := left.negative (Nat.ne_zero_of_mul_ne_zero_left some)
    have signless' := right'.negative (Nat.mul_ne_zero (Nat.ne_zero_of_mul_ne_zero_right some) pos.ne')
    rw [signless, signless']
    rfl
  · have scaled := rankOf_mul_mul (m * n) 1 pos
    rw [Nat.one_mul, Nat.mul_assoc] at scaled
    exact scaled

/-- A difference that is not below zero is the exact one, rounded. -/
theorem hasUnits_sub (left : x.HasUnits m) (right : y.HasUnits n) (le : n ≤ m) (near : bits ≤ 2097)
    (small : m < 2 ^ bits) : (x.sub y).HasUnits (rounded (m - n)) := by
  have finite : y.neg.isFinite = true := right.1
  have sum : x.signedUnits + y.neg.signedUnits = (m - n : Nat) := by
    rw [signedUnits_neg, left.2, right.2]
    omega
  rw [sub, add_of_isFinite left.1 finite, sum]
  split
  next nothing =>
    have none : m - n = 0 := by exact_mod_cast nothing
    rw [none, rounded_zero]
    refine ⟨isFinite_zero, ?_⟩
    cases x.negative && y.neg.negative <;> rfl
  next some =>
    apply hasUnits_ofUnits rfl near (by omega)
    intro _
    apply decide_eq_false
    omega

/-- Rounding down a number that is not below zero gives an integer. -/
theorem equals_floor (has : x.HasUnits n) (small : n < 2 ^ 53 * scale) : x.floor.Equals (n / scale : Nat) := by
  have pos := scale_pos
  have down : (if x.negative then x.units + (scale - 1) else x.units) / scale = n / scale := by
    rw [has.units]
    split
    next sign =>
      have none : n = 0 := by
        by_contra some
        cases sign.symm.trans (has.negative some)
      rw [none, Nat.zero_div]
      exact Nat.div_eq_of_lt (by omega)
    · rfl
  have few : n / scale < 2 ^ 53 := (Nat.div_lt_iff_lt_mul pos).2 small
  have floored : x.floor.HasUnits (rounded (n / scale * scale)) := by
    rw [floor, if_pos has.1, down]
    apply hasUnits_ofUnits rfl (by decide : 53 + 1074 ≤ 2097) (mul_scale_lt few)
    intro some
    apply has.negative
    rintro rfl
    rw [Nat.zero_div, Nat.zero_mul] at some
    exact some rfl
  rw [rounded_mul_scale few] at floored
  exact ⟨floored.1, by rw [floored.2, Int.natCast_mul]⟩

end Operations

end CanvasScript.Binary64
