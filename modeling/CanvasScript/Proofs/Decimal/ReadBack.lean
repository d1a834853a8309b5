import CanvasScript.Proofs.Binary64.Rounding
import CanvasScript.Proofs.Decimal.Digits

/-!
# The shortest digits read back

The number nearest to a decimal depends on its value alone (`Decimal.nearest_shift`), so moving
trailing zeros into the exponent does not change it. The decimal that is written for a finite
number is one to which that number is nearest (`Decimal.nearest_shortest`), and its point is
never far off (`Decimal.point_bounds`).
-/

namespace CanvasScript

namespace Binary64

theorem ofUnits_congr (negative : Bool) {num den num' den' : Nat} (same : rankOf num den = rankOf num' den') :
    ofUnits negative num den = ofUnits negative num' den' := by
  unfold ofUnits
  simp only [same]

theorem ofUnits_eq_zero (negative : Bool) {num den : Nat} (rank : rankOf num den = 0) :
    ofUnits negative num den = { zero with negative } := by
  unfold ofUnits zero
  simp only [rank]

theorem ofUnits_eq_infinity (negative : Bool) {num den : Nat} (rank : rankOf num den = infinityRank) :
    ofUnits negative num den = infinity negative := by
  unfold ofUnits infinity
  simp only [rank]

/-- A finite number is that of its units. -/
theorem ofUnits_units {x : Binary64} (finite : x.isFinite = true) : ofUnits x.negative x.units 1 = x := by
  obtain ⟨negative, rank, rank_le⟩ := x
  have rank : rankOf (unitsOf rank) 1 = rank := rankOf_unitsOf (of_decide_eq_true finite)
  unfold ofUnits units
  simp only [rank]

end Binary64

namespace Decimal

open Binary64 (rankOf ofUnits infinityRank)

/-- The units of a decimal are the quotient of this and `den`. -/
def num (d : Decimal) : Nat := d.digits * 10 ^ d.exponent.toNat * Binary64.scale

/-- What `num` is to be divided by. -/
def den (d : Decimal) : Nat := 10 ^ (-d.exponent).toNat

theorem den_pos (d : Decimal) : 0 < d.den := Nat.pow_pos (by decide)

theorem two_pow_le_ten_pow (n : Nat) : 2 ^ (3 * n) ≤ 10 ^ n := by
  rw [Nat.pow_mul]
  exact Nat.pow_le_pow_left (by decide) n

/-- Units are powers of two. -/
theorem two_pow_mul_scale (n : Nat) : 2 ^ n * Binary64.scale = 2 ^ (n + 1074) := by
  unfold Binary64.scale
  generalize 1074 = unit
  exact (Nat.pow_add 2 n unit).symm

/-- Rounding settles what is plain by the exponent just as it settles all else. -/
theorem nearest_eq_ofUnits (negative : Bool) (d : Decimal) : nearest negative d = ofUnits negative d.num d.den := by
  unfold nearest
  split
  case isTrue none =>
    rw [Binary64.ofUnits_eq_zero]
    rw [num, none, Nat.zero_mul, Nat.zero_mul, Binary64.rankOf_zero]
  case isFalse some =>
    split
    case isTrue large =>
      refine (Binary64.ofUnits_eq_infinity negative ?_).symm
      refine Binary64.rankOf_of_large (by omega : 2099 ≤ 3 * d.exponent.toNat + 1074) d.den_pos ?_
      have whole : d.den = 1 := by
        rw [den, Int.toNat_of_nonpos (by omega), Nat.pow_zero]
      calc 2 ^ (3 * d.exponent.toNat + 1074) * d.den
        _ = 1 * 2 ^ (3 * d.exponent.toNat) * Binary64.scale := by
          rw [whole, Nat.mul_one, Nat.one_mul, two_pow_mul_scale]
        _ ≤ d.digits * 10 ^ d.exponent.toNat * Binary64.scale :=
          Nat.mul_le_mul_right _ (Nat.mul_le_mul (Nat.pos_of_ne_zero some) (two_pow_le_ten_pow _))
    case isFalse =>
      split
      case isTrue small =>
        refine (Binary64.ofUnits_eq_zero negative (Binary64.rankOf_of_small ?_)).symm
        have whole : d.exponent.toNat = 0 := by omega
        have double (n : Nat) : 2 * 2 ^ n = 2 ^ (n + 1) := Nat.pow_succ'.symm
        calc 2 * d.num
          _ < 2 * (2 ^ (d.digits.log2 + 1) * Binary64.scale) := by
            have bits : d.digits < 2 ^ (d.digits.log2 + 1) := Nat.lt_log2_self
            rw [num, whole, Nat.pow_zero, Nat.mul_one]
            exact Nat.mul_lt_mul_of_pos_left (Nat.mul_lt_mul_of_pos_right bits Binary64.scale_pos) (by decide)
          _ = 2 ^ (d.digits.log2 + 1 + 1074 + 1) := by rw [two_pow_mul_scale, double]
          _ ≤ 2 ^ (3 * (-d.exponent).toNat) := Nat.pow_le_pow_right (by decide) (by omega)
          _ ≤ d.den := two_pow_le_ten_pow _
      case isFalse => rfl

/-- Digits with zeros behind them are those digits under a greater exponent. -/
theorem nearest_shift (negative : Bool) (digits zeros : Nat) (exponent : Int) :
    nearest negative { digits := digits * 10 ^ zeros, exponent } =
      nearest negative { digits, exponent := exponent + zeros } := by
  rw [nearest_eq_ofUnits, nearest_eq_ofUnits]
  refine Binary64.ofUnits_congr negative ?_
  obtain ⟨extra, less⟩ : ∃ extra, (-exponent).toNat = (-(exponent + zeros)).toNat + extra :=
    ⟨(-exponent).toNat - (-(exponent + zeros)).toNat, by omega⟩
  have more : zeros + exponent.toNat = (exponent + zeros).toNat + extra := by omega
  have den_eq : den { digits := digits * 10 ^ zeros, exponent } =
      den { digits, exponent := exponent + zeros } * 10 ^ extra := by
    simp only [den]
    rw [less, Nat.pow_add]
  have num_eq : num { digits := digits * 10 ^ zeros, exponent } =
      num { digits, exponent := exponent + zeros } * 10 ^ extra := by
    simp only [num]
    rw [Nat.mul_assoc digits, ← Nat.pow_add, more, Nat.pow_add, ← Nat.mul_assoc, Nat.mul_right_comm]
  rw [den_eq, num_eq, Binary64.rankOf_mul_mul _ _ (Nat.pow_pos (by decide))]

/-- Moving trailing zeros into the exponent keeps the value. -/
theorem exists_of_trimmed (d : Decimal) :
    ∃ zeros : Nat, d.digits = d.trimmed.digits * 10 ^ zeros ∧ d.trimmed.exponent = d.exponent + zeros := by
  have go (fuel digits : Nat) (exponent : Int) :
      ∃ zeros : Nat, digits = (trimmed.go fuel digits exponent).digits * 10 ^ zeros ∧
        (trimmed.go fuel digits exponent).exponent = exponent + zeros := by
    induction fuel generalizing digits exponent with
    | zero => exact ⟨0, (Nat.mul_one digits).symm, (Int.add_zero exponent).symm⟩
    | succ fuel ih =>
      unfold trimmed.go
      split
      case isTrue trailing =>
        obtain ⟨zeros, digits_eq, exponent_eq⟩ := ih (digits / 10) (exponent + 1)
        refine ⟨zeros + 1, ?_, by rw [exponent_eq]; omega⟩
        rw [Nat.pow_succ, ← Nat.mul_assoc, ← digits_eq]
        omega
      case isFalse => exact ⟨0, (Nat.mul_one digits).symm, (Int.add_zero exponent).symm⟩
  exact go d.digits d.digits d.exponent

theorem nearest_trimmed (negative : Bool) (d : Decimal) : nearest negative d.trimmed = nearest negative d := by
  obtain ⟨zeros, digits, exponent⟩ := exists_of_trimmed d
  calc nearest negative d.trimmed
    _ = nearest negative { digits := d.trimmed.digits, exponent := d.exponent + zeros } := by rw [← exponent]
    _ = nearest negative { digits := d.trimmed.digits * 10 ^ zeros, exponent := d.exponent } :=
      (nearest_shift negative _ _ _).symm
    _ = nearest negative d := by rw [← digits]

/-- A finite number is nearest to all its digits. -/
theorem nearest_exact {x : Binary64} (finite : x.isFinite = true) : nearest x.negative (exact x) = x := by
  have tens (n : Nat) : x.units * Nat.pow 5 n * 10 ^ 0 * Nat.pow 2 n = x.units * 10 ^ n := by
    rw [Nat.pow_zero, Nat.mul_one, Nat.mul_assoc]
    exact congrArg (x.units * ·) (Nat.mul_pow 5 2 n).symm
  have num_eq : (exact x).num = x.units * (exact x).den := by
    have none : (-1074 : Int).toNat = 0 := rfl
    have all : (- -1074 : Int).toNat = 1074 := rfl
    unfold num den exact Binary64.scale
    rw [none, all]
    generalize 1074 = n
    exact tens n
  have whole := Binary64.rankOf_mul_mul x.units 1 (exact x).den_pos
  rw [Nat.one_mul] at whole
  rw [nearest_eq_ofUnits, num_eq, Binary64.ofUnits_congr x.negative whole, Binary64.ofUnits_units finite]

/-- **The shortest digits read back.** A finite number is nearest to the decimal written for it. -/
theorem nearest_shortest {x : Binary64} (finite : x.isFinite = true) : nearest x.negative (shortest x) = x := by
  unfold shortest
  split
  case isTrue zero =>
    obtain ⟨negative, rank, rank_le⟩ := x
    obtain rfl : rank = 0 := beq_iff_eq.1 zero
    rw [nearest, if_pos rfl]
    rfl
  case isFalse =>
    rw [nearest_trimmed]
    cases found : (List.range 17).findSome? fun i => ofCount? x (i + 1) with
    | none => rw [Option.getD_none, nearest_exact finite]
    | some d =>
      rw [Option.getD_some]
      obtain ⟨i, -, here⟩ := List.exists_of_findSome?_eq_some found
      have equal := List.find?_some here
      exact beq_iff_eq.1 equal

/-- The power of ten below which a decimal lies, counted by its digits. -/
def point (d : Decimal) : Int := (digitChars d.digits).length + d.exponent

/-- A decimal near a finite number that is not zero is neither far off nor tiny. -/
theorem point_bounds {negative : Bool} {d : Decimal} {x : Binary64} (near : nearest negative d = x)
    (finite : x.isFinite = true) (nonzero : x.isZero = false) : -359 < d.point ∧ d.point < 344 := by
  have some : d.digits ≠ 0 := by
    intro none
    rw [nearest, if_pos none] at near
    rw [← near] at nonzero
    cases nonzero
  have rank : rankOf d.num d.den = x.rank := by
    rw [← near, nearest_eq_ofUnits]
    rfl
  have least := ten_pow_le some
  have most := lt_ten_pow d.digits
  have digits : 0 < (digitChars d.digits).length := List.length_pos_iff.2 (digitChars_ne_nil _)
  unfold point
  generalize (digitChars d.digits).length = count at least most digits ⊢
  constructor
  · by_contra tiny
    obtain ⟨extra, split⟩ : ∃ extra, (-d.exponent).toNat = count + d.exponent.toNat + extra :=
      ⟨(-d.exponent).toNat - (count + d.exponent.toNat), by omega⟩
    have small : 2 * d.num < d.den := by
      calc 2 * d.num
        _ < 2 * (10 ^ count * 10 ^ d.exponent.toNat * Binary64.scale) :=
          Nat.mul_lt_mul_of_pos_left (Nat.mul_lt_mul_of_pos_right
            (Nat.mul_lt_mul_of_pos_right most (Nat.pow_pos (by decide))) Binary64.scale_pos) (by decide)
        _ = 10 ^ (count + d.exponent.toNat) * (2 ^ 1 * Binary64.scale) := by
          rw [Nat.pow_add, Nat.pow_one, Nat.mul_left_comm]
        _ ≤ 10 ^ (count + d.exponent.toNat) * 2 ^ (3 * extra) := by
          have grows (a b : Nat) (le : a ≤ b) : 2 ^ a ≤ 2 ^ b := Nat.pow_le_pow_right (by decide) le
          rw [two_pow_mul_scale]
          exact Nat.mul_le_mul_left _ (grows (1 + 1074) (3 * extra) (by omega))
        _ ≤ 10 ^ (count + d.exponent.toNat) * 10 ^ extra := Nat.mul_le_mul_left _ (two_pow_le_ten_pow extra)
        _ = d.den := by rw [den, split, Nat.pow_add 10 (count + d.exponent.toNat)]
    rw [Binary64.rankOf_of_small small] at rank
    rw [Binary64.isZero, ← rank] at nonzero
    cases nonzero
  · by_contra huge
    obtain ⟨extra, split⟩ : ∃ extra, count - 1 + d.exponent.toNat = extra + (-d.exponent).toNat :=
      ⟨count - 1 + d.exponent.toNat - (-d.exponent).toNat, by omega⟩
    have large : 2 ^ (3 * extra + 1074) * d.den ≤ d.num := by
      calc 2 ^ (3 * extra + 1074) * d.den
        _ = 2 ^ (3 * extra) * d.den * Binary64.scale := by rw [← two_pow_mul_scale, Nat.mul_right_comm]
        _ ≤ 10 ^ extra * d.den * Binary64.scale :=
          Nat.mul_le_mul_right _ (Nat.mul_le_mul_right _ (two_pow_le_ten_pow extra))
        _ = 10 ^ (count - 1) * 10 ^ d.exponent.toNat * Binary64.scale := by
          rw [den, ← Nat.pow_add, ← split, Nat.pow_add]
        _ ≤ d.num := Nat.mul_le_mul_right _ (Nat.mul_le_mul_right _ least)
    rw [Binary64.rankOf_of_large (by omega) d.den_pos large] at rank
    have below : x.rank < infinityRank := of_decide_eq_true finite
    omega

end Decimal

end CanvasScript
