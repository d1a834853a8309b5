/-!
# Random draws

Choices are made from a stream of words of 64 bits, the words used so far being
counted. A choice among `n` multiplies a word by `n` and takes the high half; words
whose low half lies beyond the last whole multiple of `n` are passed over, so that
every choice is equally likely.
-/

namespace CanvasScript

/-- A stream of words and how many of them are used. -/
structure Draws where
  source : Nat → UInt64
  used : Nat
  /-- How many words one choice may pass over. -/
  patience : Nat

namespace Draws

/-- The stream from its first word on. Every choice accepts half of all words at least, so a
stream hardly ever brings as many words to pass over as this one has patience for. -/
def ofSource (source : Nat → UInt64) : Draws := { source, used := 0, patience := 65536 }

/-- The next word. -/
def next (d : Draws) : UInt64 × Draws := (d.source d.used, { d with used := d.used + 1 })

/-- The greatest low half that is accepted in a choice among `n`. -/
def zone (n : Nat) : Nat := (n <<< (63 - n.log2)) - 1

/-- A word is accepted in a choice among `n`. -/
def accepts (n : Nat) (word : UInt64) : Bool := decide (word.toNat * n % UInt64.size ≤ zone n)

/-- The choice that a word makes among `n`. -/
def choice (n : Nat) (word : UInt64) : Nat := word.toNat * n / UInt64.size

/-- A choice among `n` from the next word that is accepted; the word after
`patience` others is taken as it is. -/
def below (n : Nat) : (patience : Nat) → Draws → Nat × Draws
  | 0, d => (choice n d.next.1, d.next.2)
  | patience + 1, d =>
    if accepts n d.next.1 then (choice n d.next.1, d.next.2) else below n patience d.next.2

/-- A choice among `n` is below `n`. -/
theorem choice_lt {n : Nat} (h : 0 < n) (word : UInt64) : choice n word < n := by
  unfold choice
  have bound : word.toNat < UInt64.size := word.toNat_lt
  exact Nat.div_lt_of_lt_mul (Nat.mul_lt_mul_of_pos_right bound h)

theorem below_lt {n : Nat} (h : 0 < n) (patience : Nat) (d : Draws) : (below n patience d).1 < n := by
  induction patience generalizing d with
  | zero => exact choice_lt h _
  | succ patience ih =>
    unfold below
    split
    · exact choice_lt h _
    · exact ih _

end Draws

end CanvasScript
