import CanvasScript.Proofs.Draws.Locality
import Mathlib.Algebra.Order.Floor.Div
import Mathlib.Data.Set.Card
import Mathlib.Order.Interval.Finset.Nat

/-!
# Choices are uniform

A choice among `n` accepts a word when its product with `n` lies in the first part of a span of
`2 ^ 64`, a part that is `n` times a power of two long. So many multiples of `n` are in every such
part (`Draws.ncard_multiples`), and so many words make each choice (`Draws.ncard_choice`). The
first word that is accepted decides (`Draws.below_of_accepted`), so that each option of a token
without a number is picked by equally many words (`Shortcut.Token.picked_uniformly`).
-/

namespace CanvasScript

namespace Draws

variable {n : Nat}

/-- The zeros before the first one of the 64 binary digits of a number. -/
theorem toNat_clz (positive : 0 < n) (few : n < UInt64.size) : (BitVec.ofNat 64 n).clz.toNat = 63 - n.log2 := by
  have value : (BitVec.ofNat 64 n).toNat = n := Nat.mod_eq_of_lt few
  have nonzero : BitVec.ofNat 64 n ≠ 0#64 := by
    intro same
    rw [same] at value
    exact Nat.ne_of_gt positive value.symm
  have zeros_lt : (BitVec.ofNat 64 n).clz.toNat < 64 := BitVec.clz_lt_iff_ne_zero.2 nonzero
  have lower := BitVec.two_pow_sub_clz_le_toNat_of_ne_zero (by decide) nonzero
  have upper : (BitVec.ofNat 64 n).toNat < _ := BitVec.toNat_lt_two_pow_sub_clz
  rw [value] at lower upper
  have digits : n.log2 = 63 - (BitVec.ofNat 64 n).clz.toNat := by
    apply (Nat.log2_eq_iff (Nat.ne_of_gt positive)).2
    refine ⟨lower, ?_⟩
    have width : 63 - (BitVec.ofNat 64 n).clz.toNat + 1 = 64 - (BitVec.ofNat 64 n).clz.toNat := by omega
    rwa [width]
  omega

/-- How many words make each choice among `n`. -/
def share (n : Nat) : Nat := 2 ^ (BitVec.ofNat 64 n).clz.toNat

theorem share_pos (n : Nat) : 0 < share n := Nat.two_pow_pos _

theorem zone_eq (positive : 0 < n) (few : n < UInt64.size) : zone n = n * share n - 1 := by
  rw [zone, share, toNat_clz positive few, Nat.shiftLeft_eq]

/-- All choices together accept a span of words at the most. -/
theorem mul_share_le (positive : 0 < n) (few : n < UInt64.size) : n * share n ≤ UInt64.size := by
  have digits : n.log2 < 64 := (Nat.log2_lt (Nat.ne_of_gt positive)).2 few
  have upper : n < 2 ^ (n.log2 + 1) := Nat.lt_log2_self
  have width : n.log2 + 1 + (63 - n.log2) = 64 := by omega
  rw [share, toNat_clz positive few]
  calc n * 2 ^ (63 - n.log2)
    _ ≤ 2 ^ (n.log2 + 1) * 2 ^ (63 - n.log2) := Nat.mul_le_mul_right _ (Nat.le_of_lt upper)
    _ = UInt64.size := by rw [← Nat.pow_add, width]

/-- They accept half of all words at least. -/
theorem le_mul_share (positive : 0 < n) (few : n < UInt64.size) : 2 ^ 63 ≤ n * share n := by
  have digits : n.log2 < 64 := (Nat.log2_lt (Nat.ne_of_gt positive)).2 few
  have lower : 2 ^ n.log2 ≤ n := Nat.log2_self_le (Nat.ne_of_gt positive)
  have width : n.log2 + (63 - n.log2) = 63 := by omega
  rw [share, toNat_clz positive few]
  calc 2 ^ 63
    _ = 2 ^ n.log2 * 2 ^ (63 - n.log2) := by rw [← Nat.pow_add, width]
    _ ≤ n * 2 ^ (63 - n.log2) := Nat.mul_le_mul_right _ lower

/-- A word is accepted for a choice when its product is in the first part of the span of that choice. -/
theorem accepts_and_choice_iff (positive : 0 < n) (few : n < UInt64.size) (position : Nat) (word : UInt64) :
    accepts n word = true ∧ choice n word = position ↔
      position * UInt64.size ≤ n * word.toNat ∧ n * word.toNat < position * UInt64.size + n * share n := by
  have some_word := Nat.mul_pos positive (share_pos n)
  have inside := mul_share_le positive few
  have parts := Nat.div_add_mod (word.toNat * n) UInt64.size
  have low := Nat.mod_lt (word.toNat * n) (show 0 < UInt64.size by decide)
  rw [accepts, choice, zone_eq positive few, decide_eq_true_iff, Nat.mul_comm n word.toNat]
  constructor
  · rintro ⟨accepted, rfl⟩
    rw [Nat.mul_comm] at parts
    omega
  · rintro ⟨above, below⟩
    have high : word.toNat * n / UInt64.size = position := by
      apply Nat.div_eq_of_lt_le above
      rw [Nat.add_mul, Nat.one_mul]
      omega
    rw [high, Nat.mul_comm] at parts
    exact ⟨by omega, high⟩

/-- A span that is a multiple of `n` long has as many multiples of `n` as that says, wherever it starts. -/
theorem multiple_in_span_iff (positive : 0 < n) (start count v : Nat) :
    start ≤ n * v ∧ n * v < start + n * count ↔ start ⌈/⌉ n ≤ v ∧ v < start ⌈/⌉ n + count := by
  have at_least (u : Nat) : start ⌈/⌉ n ≤ u ↔ start ≤ n * u := ceilDiv_le_iff_le_mul positive
  -- Behind the span the least multiplier is `count` greater than at its start.
  have behind : start ⌈/⌉ n + count ≤ v ↔ start + n * count ≤ n * v := by
    by_cases far : count ≤ v
    · obtain ⟨u, rfl⟩ := Nat.exists_eq_add_of_le far
      have here := at_least u
      rw [Nat.mul_add]
      omega
    · have near : n * v < n * count := Nat.mul_lt_mul_of_pos_left (Nat.lt_of_not_le far) positive
      omega
  rw [← at_least v]
  omega

/-- The words whose products are in a span. -/
theorem ncard_multiples (positive : 0 < n) {start count : Nat} (inside : start + n * count ≤ n * UInt64.size) :
    {word : UInt64 | start ≤ n * word.toNat ∧ n * word.toNat < start + n * count}.ncard = count := by
  have numbers : UInt64.toNat '' {word : UInt64 | start ≤ n * word.toNat ∧ n * word.toNat < start + n * count} =
      Finset.Ico (start ⌈/⌉ n) (start ⌈/⌉ n + count) := by
    ext v
    rw [Finset.coe_Ico, Set.mem_Ico, ← multiple_in_span_iff positive]
    constructor
    · rintro ⟨word, mem, rfl⟩
      exact mem
    · intro mem
      have bound : v < UInt64.size := by
        have product : n * v < n * UInt64.size := Nat.lt_of_lt_of_le mem.2 inside
        exact Nat.lt_of_mul_lt_mul_left product
      have value : (UInt64.ofNat v).toNat = v := UInt64.toNat_ofNat_of_lt' bound
      refine ⟨UInt64.ofNat v, ?_, value⟩
      rw [Set.mem_ofPred_eq, value]
      exact mem
  have injective : Function.Injective UInt64.toNat := fun _ _ => UInt64.toNat_inj.1
  rw [← Set.ncard_image_of_injective _ injective, numbers, Set.ncard_coe_finset, Nat.card_Ico,
    Nat.add_sub_cancel_left]

/-- Every choice among `n` is made by equally many of the words that are accepted. -/
theorem ncard_choice (positive : 0 < n) (few : n < UInt64.size) {position : Nat} (inside : position < n) :
    {word : UInt64 | accepts n word = true ∧ choice n word = position}.ncard = share n := by
  simp only [accepts_and_choice_iff positive few]
  apply ncard_multiples positive
  have part := mul_share_le positive few
  calc position * UInt64.size + n * share n
    _ ≤ (position + 1) * UInt64.size := by
      rw [Nat.add_mul, Nat.one_mul]
      exact Nat.add_le_add_left part _
    _ ≤ n * UInt64.size := Nat.mul_le_mul_right _ inside

/-- Words are passed over up to the first that is accepted, and that one decides. -/
theorem below_of_accepted {rejected patience : Nat} {d : Draws} (within : rejected ≤ patience)
    (passed : ∀ i < rejected, accepts n (d.ahead i) = false) (accepted : accepts n (d.ahead rejected) = true) :
    below n patience d = (choice n (d.ahead rejected), d.advance (rejected + 1)) := by
  induction rejected generalizing patience d with
  | zero =>
    cases patience with
    | zero => rfl
    | succ patience =>
      have here : accepts n d.next.1 = true := accepted
      rw [below, if_pos here]
      rfl
  | succ rejected ih =>
    obtain ⟨patience, rfl⟩ := Nat.exists_eq_add_of_le' (Nat.lt_of_lt_of_le (Nat.succ_pos rejected) within)
    have here : accepts n d.next.1 = false := passed 0 (Nat.succ_pos rejected)
    have rest : d.next.2 = d.advance 1 := rfl
    have order (i : Nat) : 1 + i = i + 1 := Nat.add_comm 1 i
    rw [below, if_neg (Bool.eq_false_iff.1 here), rest, ih (d := d.advance 1)]
    · rw [ahead_advance, advance_advance, order, order]
    · omega
    · intro i bound
      rw [ahead_advance, order]
      exact passed (i + 1) (Nat.succ_lt_succ bound)
    · rw [ahead_advance, order]
      exact accepted

end Draws

namespace Shortcut.Token

open Draws (accepts choice below)

/-- A token is picked among options so that each is as likely as any other, wherever it stands. -/
structure PickedUniformly (table : Table) (token : Token) (list : List (List Char)) : Prop where
  /-- There is an option at every position that is drawn, and it is picked. -/
  indexed : ∀ d : Draws, list[(below list.length d.patience d).1]? = some (token.pick table d).1 ∧
    (token.pick table d).2 = (below list.length d.patience d).2
  /-- The first word that is accepted decides on the position. -/
  decided : ∀ (d : Draws) (rejected : Nat), (∀ i < rejected, accepts list.length (d.ahead i) = false) →
    accepts list.length (d.ahead rejected) = true →
      ∀ patience ≥ rejected, below list.length patience d =
        (choice list.length (d.ahead rejected), d.advance (rejected + 1))
  inside : ∀ word, choice list.length word < list.length
  shares : ∀ position < list.length,
    {word : UInt64 | accepts list.length word = true ∧ choice list.length word = position}.ncard =
      2 ^ (BitVec.ofNat 64 list.length).clz.toNat
  /-- Half of all words are accepted at least. -/
  most_accepted : 2 ^ 63 ≤ list.length * 2 ^ (BitVec.ofNat 64 list.length).clz.toNat

/-- **Picks are uniform.** Where a name has options, the token without a number is picked by the
first word that is accepted, and each position in the options is chosen by equally many of the
words that are accepted: two to the power of the leading zeros that the number of options has in
64 binary digits. -/
theorem picked_uniformly {table : Table} {token : Token} {value : String} (unnumbered : token.number? = none)
    (known : table.get? (String.ofList token.name) = some value) (some_option : options value.toList ≠ [])
    (few : (options value.toList).length < 2 ^ 63) : PickedUniformly table token (options value.toList) := by
  have positive : 0 < (options value.toList).length := List.length_pos_iff.2 some_option
  have few : (options value.toList).length < UInt64.size := Nat.lt_trans few (by decide)
  have options_eq : token.optionsIn table = options value.toList := by
    rw [optionsIn, known]
  constructor
  case indexed =>
    intro d
    have bound := Draws.below_lt positive d.patience d
    simp [pick, options_eq, some_option, unnumbered, List.getElem?_eq_getElem bound]
  case decided =>
    intro d rejected passed accepted patience within
    exact Draws.below_of_accepted within passed accepted
  case inside => exact Draws.choice_lt positive
  case shares =>
    intro position inside
    exact Draws.ncard_choice positive few inside
  case most_accepted => exact Draws.le_mul_share positive few

/-- Three options, two of them alike. -/
def coats : Table := .ofList [("$coat", "red| blue || red")]

/-- The like options stand at positions of their own, and each position has a quarter of all words. -/
theorem picked_uniformly_coats :
    PickedUniformly coats { name := "$coat".toList, number? := none } ["red".toList, "blue".toList, "red".toList] ∧
      {word : UInt64 | accepts 3 word = true ∧ choice 3 word = 2}.ncard = 2 ^ 62 := by
  let token : Token := { name := "$coat".toList, number? := none }
  have unnumbered : token.number? = none := rfl
  have known : coats.get? (String.ofList token.name) = some "red| blue || red" := by decide +kernel
  have cut : options "red| blue || red".toList = ["red".toList, "blue".toList, "red".toList] := by decide +kernel
  have uniform := picked_uniformly unnumbered known (by rw [cut]; decide) (by rw [cut]; decide)
  rw [cut] at uniform
  exact ⟨uniform, uniform.shares 2 (by decide)⟩

end Shortcut.Token

end CanvasScript
