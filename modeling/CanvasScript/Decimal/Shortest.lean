import CanvasScript.Decimal

/-!
# The fewest digits that read back

`Decimal.shortest` writes a finite magnitude with as few digits as possible:
for one digit, two digits and so on it takes the two neighbours of the value
among the decimals of that many digits, the nearer first and of two equally near
the even one, and stops at the first that reads back as the value. `text` lays
the digits out.
-/

namespace CanvasScript

namespace Decimal

/-- `u` units are at least `10 ^ e`. -/
def reaches (u : Nat) (e : Int) : Bool :=
  decide (Nat.pow 10 e.toNat * Binary64.scale ≤ u * Nat.pow 10 (-e).toNat)

/-- The greatest `e` such that `u` units are at least `10 ^ e`, for `u` not zero. -/
def magnitude (u : Nat) : Int :=
  let guess := ((u.log2 : Int) - 1074) * 30103 / 100000
  if reaches u guess then if reaches u (guess + 1) then guess + 1 else guess
  else guess - 1

/-- The neighbours of `u` units among the multiples of `10 ^ e`, the nearer first. -/
def neighbours (u : Nat) (e : Int) : List Decimal :=
  let num := u * Nat.pow 10 (-e).toNat
  let den := Nat.pow 10 e.toNat * Binary64.scale
  let below := num / den
  let rest := num % den
  let down : Decimal := { digits := below, exponent := e }
  let up : Decimal := { digits := below + 1, exponent := e }
  if 2 * rest < den ∨ 2 * rest = den ∧ below % 2 = 0 then [down, up] else [up, down]

/-- The neighbour of `x` with `count` digits that reads back as `x`, the nearer of two. -/
def ofCount? (x : Binary64) (count : Nat) : Option Decimal :=
  (neighbours x.units (magnitude x.units + 1 - count)).find? fun d => nearest x.negative d == x

/-- All digits of a magnitude. -/
def exact (x : Binary64) : Decimal := { digits := x.units * Nat.pow 5 1074, exponent := -1074 }

/-- The shortest decimal that reads back as a finite number. -/
def shortest (x : Binary64) : Decimal :=
  if x.isZero then { digits := 0, exponent := 0 }
  else (((List.range 17).findSome? fun i => ofCount? x (i + 1)).getD (exact x)).trimmed

/-- Where digits stop being written out in full. -/
structure Layout where
  /-- Numbers of at least ten to this power have an exponent. -/
  large : Int
  /-- Numbers below ten to this power have an exponent. -/
  small : Int

/-- The decimal digits of a natural. -/
def digitChars (n : Nat) : List Char := Nat.toDigits 10 n

/-- An exponent has a sign and no leading zeros. -/
def exponentChars (e : Int) : List Char :=
  'e' :: (if e < 0 then '-' else '+') :: digitChars e.natAbs

/-- Digits with a point: a whole number keeps one zero behind the point, a number
below one has one before it; outside the layout's bounds one digit stands before
the point, which is left out when nothing follows. -/
def chars (layout : Layout) (d : Decimal) : List Char :=
  let ds := digitChars d.digits
  let point : Int := ds.length + d.exponent
  if layout.large < point ∨ point ≤ layout.small then
    match ds with
    | [] => []
    | [c] => c :: exponentChars (point - 1)
    | c :: rest => c :: '.' :: rest ++ exponentChars (point - 1)
  else if 0 ≤ d.exponent then ds ++ List.replicate d.exponent.toNat '0' ++ ['.', '0']
  else if 0 < point then ds.take point.toNat ++ '.' :: ds.drop point.toNat
  else '0' :: '.' :: List.replicate (-point).toNat '0' ++ ds

end Decimal

/-- The shortest text of a finite number; a minus sign also before zero. -/
def Binary64.chars (layout : Decimal.Layout) (x : Binary64) : List Char :=
  (if x.negative then ['-'] else []) ++ (Decimal.shortest x).chars layout

end CanvasScript
