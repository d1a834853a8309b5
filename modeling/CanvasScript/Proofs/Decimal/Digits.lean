import CanvasScript.Decimal.Shortest
import CanvasScript.Text.DecimalDigit
import Mathlib.Algebra.Group.Nat.Defs
import Mathlib.Data.List.Induction

/-!
# Decimal digits

The digits of a number are read back as that number (`Decimal.ofDigits_digitChars`). They do not
start with a zero unless the number is zero, and their count tells how large it is
(`Decimal.ten_pow_le`, `Decimal.lt_ten_pow`).
-/

namespace CanvasScript.Decimal

open Text (isAsciiDigit)

theorem ofDigits_append (first second : List Char) :
    ofDigits (first ++ second) = ofDigits first * 10 ^ second.length + ofDigits second := by
  induction second using List.reverseRecOn with
  | nil => simp [ofDigits_nil]
  | append_singleton second c ih =>
    rw [← List.append_assoc, ofDigits_snoc, ofDigits_snoc, ih, List.length_append, List.length_singleton, Nat.pow_succ,
      Nat.add_mul, Nat.mul_assoc, Nat.add_assoc]

/-- Zeros before other digits do not count. -/
theorem ofDigits_replicate_append (n : Nat) (cs : List Char) :
    ofDigits (List.replicate n '0' ++ cs) = ofDigits cs := by
  have zeros : ofDigits (List.replicate n '0') = 0 := by
    induction n with
    | zero => rfl
    | succ n ih =>
      rw [List.replicate_succ', ofDigits_snoc, ih]
      rfl
  rw [ofDigits_append, zeros, Nat.zero_mul, Nat.zero_add]

/-- Zeros behind other digits are powers of ten. -/
theorem ofDigits_append_replicate (cs : List Char) (n : Nat) :
    ofDigits (cs ++ List.replicate n '0') = ofDigits cs * 10 ^ n := by
  have zeros := ofDigits_replicate_append n []
  rw [List.append_nil, ofDigits_nil] at zeros
  rw [ofDigits_append, zeros, List.length_replicate, Nat.add_zero]

theorem ofDigits_eq_ofDigitChars (cs : List Char) : ofDigits cs = Nat.ofDigitChars 10 cs 0 := by
  unfold ofDigits Nat.ofDigitChars
  congr 1
  funext n c
  rw [Nat.mul_comm]
  rfl

/-- Digits are read back as the number that they are of. -/
theorem ofDigits_digitChars (n : Nat) : ofDigits (digitChars n) = n := by
  rw [ofDigits_eq_ofDigitChars, digitChars, Nat.ofDigitChars_ten_toDigits]

theorem isAsciiDigit_of_mem_digitChars {n : Nat} {c : Char} (mem : c ∈ digitChars n) : isAsciiDigit c = true := by
  have digit : c.isDigit = true := Nat.isDigit_of_mem_toDigits (by decide) (by decide) mem
  unfold isAsciiDigit
  unfold Char.isDigit at digit
  exact digit

theorem digitChars_ne_nil (n : Nat) : digitChars n ≠ [] := Nat.toDigits_ne_nil

/-- The first digit of a number that is not zero is not zero. -/
theorem exists_digitChars {n : Nat} (nonzero : n ≠ 0) : ∃ c rest, digitChars n = c :: rest ∧ c ≠ '0' := by
  induction n using Nat.strongRecOn with
  | ind n ih =>
    unfold digitChars
    by_cases small : n < 10
    · have other : ∀ m : Fin 10, m.val ≠ 0 → m.val.digitChar ≠ '0' := by decide
      exact ⟨n.digitChar, [], Nat.toDigits_of_lt_base small, other ⟨n, small⟩ nonzero⟩
    · obtain ⟨c, rest, digits, other⟩ := ih (n / 10) (by omega) (by omega)
      rw [Nat.toDigits_of_base_le (by decide) (by omega)]
      exact ⟨c, rest ++ [(n % 10).digitChar], by rw [← List.cons_append, ← digits]; rfl, other⟩

theorem lt_ten_pow (n : Nat) : n < 10 ^ (digitChars n).length :=
  (Nat.length_toDigits_le_iff (by decide) Nat.length_toDigits_pos).1 (Nat.le_refl _)

theorem ten_pow_le {n : Nat} (nonzero : n ≠ 0) : 10 ^ ((digitChars n).length - 1) ≤ n := by
  by_cases single : (digitChars n).length - 1 = 0
  · rw [single]
    exact Nat.pos_of_ne_zero nonzero
  · by_contra less
    have shorter := (Nat.length_toDigits_le_iff (by decide) (Nat.pos_of_ne_zero single)).2 (Nat.lt_of_not_le less)
    unfold digitChars at single shorter
    omega

end CanvasScript.Decimal
