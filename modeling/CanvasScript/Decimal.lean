import CanvasScript.Binary64

/-!
# Decimals

A decimal is a whole number of units of a power of ten. `Decimal.nearest` is
the floating-point number nearest to it; exponents so large that the outcome is
plain are settled before any power of ten is computed.
-/

namespace CanvasScript

/-- The number `digits * 10 ^ exponent`. -/
structure Decimal where
  digits : Nat
  exponent : Int
  deriving DecidableEq

namespace Decimal

/-- The value of one ASCII digit. -/
def digitValue (c : Char) : Nat := c.toNat - '0'.toNat

/-- The natural written by ASCII digits. -/
def ofDigits (cs : List Char) : Nat := cs.foldl (fun n c => n * 10 + digitValue c) 0

theorem ofDigits_nil : ofDigits [] = 0 := rfl

theorem ofDigits_snoc (cs : List Char) (c : Char) :
    ofDigits (cs ++ [c]) = ofDigits cs * 10 + digitValue c := by
  simp [ofDigits]

/-- The floating-point number nearest to a decimal of the given sign, a half
to the one of even rank. -/
def nearest (negative : Bool) (d : Decimal) : Binary64 :=
  if d.digits = 0 then { Binary64.zero with negative }
  else if 400 < d.exponent then Binary64.infinity negative
  else if (d.digits.log2 : Int) + 400 < -d.exponent then { Binary64.zero with negative }
  else Binary64.ofUnits negative (d.digits * Nat.pow 10 d.exponent.toNat * Binary64.scale)
    (Nat.pow 10 (-d.exponent).toNat)

/-- The decimal with its trailing zeros moved into the exponent. -/
def trimmed (d : Decimal) : Decimal :=
  go d.digits d.digits d.exponent
where
  go : Nat → Nat → Int → Decimal
    | 0, digits, exponent => { digits, exponent }
    | fuel + 1, digits, exponent =>
      if digits ≠ 0 ∧ digits % 10 = 0 then go fuel (digits / 10) (exponent + 1)
      else { digits, exponent }

end Decimal

end CanvasScript
