import CanvasScript.Draws

/-!
# Streams from a seed

The seed is stretched to a key of eight words by a permuted congruential
generator. The stream is the key stream of ChaCha with twelve rounds, a block
counter from zero and no nonce, two words to a draw, the low one first.
-/

namespace CanvasScript.Draws

/-- The word with its bits rotated to the left. -/
def rotateLeft (x : UInt32) (n : UInt32) : UInt32 := (x <<< n) ||| (x >>> ((32 - n) % 32))

/-- The next state of the generator that stretches a seed. -/
def stretchState (state : UInt64) : UInt64 := state * 6364136223846793005 + 11634580027462260723

/-- The word that a state of the generator gives: its mixed middle bits, rotated to
the right as far as its highest bits say. -/
def stretchWord (state : UInt64) : UInt32 :=
  let mixed := (((state >>> 18) ^^^ state) >>> 27).toUInt32
  let rotation := (state >>> 59).toUInt32
  rotateLeft mixed ((32 - rotation) % 32)

/-- The first words that a seed is stretched to. -/
def stretched : (count : Nat) → (state : UInt64) → List UInt32
  | 0, _ => []
  | count + 1, state => stretchWord (stretchState state) :: stretched count (stretchState state)

/-- The words that every block starts with. -/
def constants : List UInt32 := [0x61707865, 0x3320646E, 0x79622D32, 0x6B206574]

/-- The sixteen words of a block: four constants, the key, the counter and no nonce. -/
def block (key : List UInt32) (counter : Nat) : List UInt32 :=
  constants ++ key ++ [counter.toUInt32, (counter >>> 32).toUInt32, 0, 0]

/-- Four words of a block mixed with each other. -/
def quarter (words : List UInt32) (a b c d : Nat) : List UInt32 :=
  let word (i : Nat) := words.getD i 0
  let wa := word a + word b
  let wd := rotateLeft (word d ^^^ wa) 16
  let wc := word c + wd
  let wb := rotateLeft (word b ^^^ wc) 12
  let wa := wa + wb
  let wd := rotateLeft (wd ^^^ wa) 8
  let wc := wc + wd
  let wb := rotateLeft (wb ^^^ wc) 7
  (((words.set a wa).set b wb).set c wc).set d wd

/-- A round over the columns and one over the diagonals. -/
def doubleRound (words : List UInt32) : List UInt32 :=
  [(0, 4, 8, 12), (1, 5, 9, 13), (2, 6, 10, 14), (3, 7, 11, 15),
    (0, 5, 10, 15), (1, 6, 11, 12), (2, 7, 8, 13), (3, 4, 9, 14)].foldl
    (fun words (a, b, c, d) => quarter words a b c d) words

/-- The key stream of a block: the mixed words added to those of the block. -/
def keyStream (key : List UInt32) (counter : Nat) : List UInt32 :=
  let start := block key counter
  List.zipWith (· + ·) ((List.range 6).foldl (fun words _ => doubleRound words) start) start

/-- The draw at a position of the stream. -/
def keyDraw (key : List UInt32) (position : Nat) : UInt64 :=
  let words := keyStream key (position / 8)
  let low := words.getD (2 * (position % 8)) 0
  let high := words.getD (2 * (position % 8) + 1) 0
  (high.toUInt64 <<< 32) ||| low.toUInt64

/-- The stream of a seed. -/
def seeded (seed : UInt64) : Draws := ofSource (keyDraw (stretched 8 seed))

end CanvasScript.Draws
