import CanvasScript.Text.LowerCase

/-!
# Listings of directories

The files of a directory are taken in turn, in the order of their names without
regard to case. Files whose names differ in case alone keep their order.
-/

namespace CanvasScript

/-- A file in a directory. -/
structure DirEntry where
  name : String
  path : String
  deriving DecidableEq, Inhabited

/-- A name is not after another, without regard to case. -/
def nameLe (first second : String) : Bool := !decide (Text.lower second < Text.lower first)

/-- The entries in the order of their names. -/
def sortEntries (entries : List DirEntry) : List DirEntry :=
  entries.mergeSort fun first second => nameLe first.name second.name

/-- The position of the turn `counter` among `count` entries, also for a negative one. -/
def turn (counter : Int) (count : Nat) : Nat := (counter % count).toNat

theorem turn_lt (counter : Int) {count : Nat} (h : 0 < count) : turn counter count < count := by
  unfold turn
  have pos : (0 : Int) < count := by exact_mod_cast h
  have := Int.emod_nonneg counter (Int.ne_of_gt pos)
  have := Int.emod_lt_of_pos counter pos
  omega

/-- The entry whose turn it is. -/
def entryInTurn? (entries : List DirEntry) (counter : Int) : Option DirEntry :=
  (sortEntries entries)[turn counter entries.length]?

end CanvasScript
