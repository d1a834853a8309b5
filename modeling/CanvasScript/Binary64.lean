/-!
# Binary floating-point numbers of 64 bits

A number is a sign and the rank of its magnitude among all magnitudes in
increasing order: zero has rank `0`, the least subnormal rank `1`, infinity
comes after the greatest finite magnitude and one more rank stands for "not a
number". A finite magnitude is a whole number of units of `2 ^ -1074`, so every
operation computes exactly in the naturals and rounds once, to the nearest
rank, a half going to the even one. Order is order of ranks.
-/

namespace CanvasScript

namespace Binary64

/-- Ranks between one power of two and the next. -/
def span : Nat := 4503599627370496

/-- Units in the number one. -/
def scale : Nat := Nat.pow 2 1074

/-- The rank after every finite magnitude. -/
def infinityRank : Nat := 2047 * span

/-- The quotient rounded to the nearest natural, a half to the even one. -/
def nearest (num den : Nat) : Nat :=
  let q := num / den
  let r := num % den
  if 2 * r < den then q
  else if 2 * r = den then q + q % 2
  else q + 1

/-- The rank nearest to `num / den` units, infinity for all beyond the greatest. -/
def rankOf (num den : Nat) : Nat :=
  let exponent := (num / den).log2 - 52
  min (exponent * span + nearest num (den * Nat.pow 2 exponent)) infinityRank

/-- The units of the magnitude of a finite rank. -/
def unitsOf (rank : Nat) : Nat :=
  if rank < span then rank else (rank % span + span) * Nat.pow 2 (rank / span - 1)

theorem rankOf_le (num den : Nat) : rankOf num den ≤ infinityRank :=
  Nat.min_le_right ..

end Binary64

/-- A floating-point number: its sign and the rank of its magnitude. -/
structure Binary64 where
  negative : Bool
  rank : Nat
  rank_le : rank ≤ Binary64.infinityRank + 1 := by decide
  deriving DecidableEq

namespace Binary64

def zero : Binary64 := { negative := false, rank := 0 }

def nan : Binary64 := { negative := false, rank := infinityRank + 1 }

/-- Infinity of the given sign. -/
def infinity (negative : Bool) : Binary64 := { negative, rank := infinityRank }

instance : Inhabited Binary64 := ⟨zero⟩

/-- The number nearest to `num / den` units. -/
def ofUnits (negative : Bool) (num den : Nat) : Binary64 where
  negative
  rank := rankOf num den
  rank_le := Nat.le_succ_of_le (rankOf_le num den)

def isNaN (x : Binary64) : Bool := x.rank == infinityRank + 1

def isInfinite (x : Binary64) : Bool := x.rank == infinityRank

def isFinite (x : Binary64) : Bool := decide (x.rank < infinityRank)

def isZero (x : Binary64) : Bool := x.rank == 0

/-- The magnitude of a finite number in units. -/
def units (x : Binary64) : Nat := unitsOf x.rank

/-- A finite number in units, with its sign. -/
def signedUnits (x : Binary64) : Int := if x.negative then -(x.units : Int) else x.units

/-- The rank with the sign: numbers other than "not a number" are ordered by it,
and the two zeros are equal. -/
def order (x : Binary64) : Int := if x.negative then -(x.rank : Int) else x.rank

def lt (x y : Binary64) : Bool := !x.isNaN && !y.isNaN && decide (x.order < y.order)

def le (x y : Binary64) : Bool := !x.isNaN && !y.isNaN && decide (x.order ≤ y.order)

/-- The greater of two numbers; an operand that is not a number is passed over. -/
def max (x y : Binary64) : Binary64 :=
  if x.isNaN then y else if y.isNaN then x else if y.lt x then x else y

/-- The lesser of two numbers; an operand that is not a number is passed over. -/
def min (x y : Binary64) : Binary64 :=
  if x.isNaN then y else if y.isNaN then x else if x.lt y then x else y

def neg (x : Binary64) : Binary64 := { x with negative := !x.negative }

/-- The exact sum rounded once; a sum of nothing is negative when both operands are. -/
def add (x y : Binary64) : Binary64 :=
  if x.isNaN || y.isNaN then nan
  else if x.isInfinite then if y.isInfinite && x.negative != y.negative then nan else x
  else if y.isInfinite then y
  else
    let sum := x.signedUnits + y.signedUnits
    if sum = 0 then { zero with negative := x.negative && y.negative }
    else ofUnits (decide (sum < 0)) sum.natAbs 1

def sub (x y : Binary64) : Binary64 := x.add y.neg

def mul (x y : Binary64) : Binary64 :=
  let negative := x.negative != y.negative
  if x.isNaN || y.isNaN then nan
  else if x.isInfinite || y.isInfinite then
    if x.isZero || y.isZero then nan else infinity negative
  else ofUnits negative (x.units * y.units) scale

def div (x y : Binary64) : Binary64 :=
  let negative := x.negative != y.negative
  if x.isNaN || y.isNaN || x.isInfinite && y.isInfinite || x.isZero && y.isZero then nan
  else if x.isInfinite || y.isZero then infinity negative
  else if y.isInfinite then { zero with negative }
  else ofUnits negative (x.units * scale) y.units

/-- The greatest whole number that is not above; the sign of zero is kept. -/
def floor (x : Binary64) : Binary64 :=
  if x.isFinite then
    ofUnits x.negative ((if x.negative then x.units + (scale - 1) else x.units) / scale * scale) 1
  else x

/-- A finite number cut off at the point. -/
def truncated (x : Binary64) : Int := x.signedUnits.tdiv scale

/-- The least whole number that is not below a finite one. -/
def ceiling (x : Binary64) : Int := -((-x.signedUnits).fdiv scale)

/-- A finite number without a fraction. -/
def isWhole (x : Binary64) : Bool := x.isFinite && x.units % scale == 0

/-- The number nearest to an integer. -/
def ofInt (n : Int) : Binary64 := ofUnits (decide (n < 0)) (n.natAbs * scale) 1

def ofNat (n : Nat) : Binary64 := ofInt n

/-- The integers of 64 bits are those below this and not below its negative. -/
def int64Bound : Nat := 9223372036854775808

/-- The integer moved into the signed range of 64 bits. -/
def clamp64 (n : Int) : Int := Max.max (-int64Bound) (Min.min n (int64Bound - 1))

/-- Cut off at the point and moved into the signed range of 64 bits; zero for what is not a number. -/
def toInt64 (x : Binary64) : Int :=
  if x.isNaN then 0
  else if x.isInfinite then if x.negative then -int64Bound else int64Bound - 1
  else clamp64 x.truncated

/-- Ranks below two spans are their own units. -/
theorem unitsOf_small {rank : Nat} (h : rank < 2 * span) : unitsOf rank = rank := by
  unfold unitsOf
  split
  · rfl
  · rename_i ge
    have one : rank / span = 1 := by
      apply Nat.div_eq_of_lt_le <;> omega
    have rest : rank % span = rank - span := by
      have := Nat.div_add_mod rank span
      rw [one] at this
      omega
    rw [one, rest]
    simp
    omega

end Binary64

end CanvasScript
