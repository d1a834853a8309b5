import CanvasScript.FilePath
import Mathlib.Data.List.Basic

/-!
# Numbered paths

A path has a directory and behind it the name of a file, which may have an extension.
A path with a number keeps its directory and its extension (`directory_numbered`,
`extension?_numbered`) and is told from those with other numbers, negative ones
included, also under a directory that paths start from (`join_numbered_injective`).
-/

namespace CanvasScript.FilePath

section SplitLast

variable {sep : Char} {after cs : List Char}

theorem splitLast_append (before : List Char) (clear : sep ∉ after) :
    splitLast sep (before ++ sep :: after) = some (before ++ [sep], after) := by
  have passed : ∀ c ∈ after.reverse, (c != sep) = true := by
    intro c mem
    rw [bne_iff_ne]
    rintro rfl
    exact clear (List.mem_reverse.1 mem)
  have reversed : (before ++ sep :: after).reverse = after.reverse ++ sep :: before.reverse := by simp
  rw [splitLast, reversed, List.dropWhile_append_of_pos passed, List.takeWhile_append_of_pos passed]
  simp

theorem splitLast_of_not_mem (clear : sep ∉ cs) : splitLast sep cs = none := by
  have passed : ∀ c ∈ cs.reverse, (c != sep) = true := by
    intro c mem
    rw [bne_iff_ne]
    rintro rfl
    exact clear (List.mem_reverse.1 mem)
  have nothing : cs.reverse.dropWhile (· != sep) = [] := by
    rw [← List.append_nil cs.reverse, List.dropWhile_append_of_pos passed, List.dropWhile_nil]
  rw [splitLast, nothing]

/-- What follows the last occurrence of a character has none. -/
theorem exists_last (mem : sep ∈ cs) : ∃ before after, cs = before ++ sep :: after ∧ sep ∉ after := by
  obtain ⟨after, before, reversed, clear⟩ := List.eq_append_cons_of_mem (List.mem_reverse.2 mem)
  refine ⟨before.reverse, after.reverse, ?_, fun inside => clear (List.mem_reverse.1 inside)⟩
  rw [← List.reverse_reverse cs, reversed]
  simp

end SplitLast

/-- The directory of a path, with the slash behind it. -/
def directory (path : String) : List Char := ((splitLast '/' path.toList).map Prod.fst).getD []

/-- The name of the file at a path. -/
def fileName (path : String) : List Char := ((splitLast '/' path.toList).map Prod.snd).getD path.toList

/-- What follows the last dot in the name of the file. -/
def extension? (path : String) : Option (List Char) := (splitLast '.' (fileName path)).map Prod.snd

/-- A directory is empty or ends in a slash. -/
def IsDirectory (cs : List Char) : Prop := cs = [] ∨ ∃ before, cs = before ++ ['/']

section Parts

variable {path : String} {front name : List Char}

/-- A path is split where no slash follows a directory. -/
theorem parts_of_append (parts : path.toList = front ++ name) (front_ends : IsDirectory front) (clear : '/' ∉ name) :
    directory path = front ∧ fileName path = name := by
  unfold directory fileName
  rcases front_ends with rfl | ⟨before, rfl⟩
  · rw [parts, List.nil_append, splitLast_of_not_mem clear]
    exact ⟨rfl, rfl⟩
  · have joined : before ++ ['/'] ++ name = before ++ '/' :: name := by simp
    rw [parts, joined, splitLast_append before clear]
    exact ⟨rfl, rfl⟩

/-- Every path is split into its directory and the name of a file. -/
theorem parts_eq (path : String) :
    path.toList = directory path ++ fileName path ∧ IsDirectory (directory path) ∧ '/' ∉ fileName path := by
  by_cases mem : '/' ∈ path.toList
  · obtain ⟨before, after, split, clear⟩ := exists_last mem
    have split' : path.toList = (before ++ ['/']) ++ after := by rw [split]; simp
    obtain ⟨front, name⟩ := parts_of_append split' (.inr ⟨before, rfl⟩) clear
    rw [front, name]
    exact ⟨split', .inr ⟨before, rfl⟩, clear⟩
  · have whole : path.toList = [] ++ path.toList := rfl
    obtain ⟨front, name⟩ := parts_of_append whole (.inl rfl) mem
    rw [front, name]
    exact ⟨rfl, .inl rfl, mem⟩

end Parts

section Padded

/-- The digits of a number, behind a sign if it is negative. -/
theorem toList_toString (n : Int) :
    (toString n).toList = (if n < 0 then ['-'] else []) ++ Nat.toDigits 10 n.natAbs := by
  show n.repr.toList = _
  rw [Int.repr_eq_if]
  by_cases negative : n < 0
  · have abs : (-n).toNat = n.natAbs := by omega
    rw [if_neg (by omega), if_pos negative, String.toList_append, Nat.toList_repr, abs]
    rfl
  · have abs : n.toNat = n.natAbs := by omega
    rw [if_pos (by omega), if_neg negative, Nat.toList_repr, abs]
    rfl

/-- The number of zeros on the left. -/
def zeros (n : Int) : Nat := 3 - (toString n).toList.length

theorem padded_eq (n : Int) :
    padded n = List.replicate (zeros n) '0' ++ ((if n < 0 then ['-'] else []) ++ Nat.toDigits 10 n.natAbs) := by
  rw [← toList_toString]
  rfl

theorem mem_padded {n : Int} {c : Char} (mem : c ∈ padded n) : c.isDigit = true ∨ c = '-' ∧ n < 0 := by
  rw [padded_eq, List.mem_append, List.mem_append] at mem
  rcases mem with zero | sign | digit
  · obtain rfl := List.eq_of_mem_replicate zero
    exact .inl (by decide)
  · split at sign
    · rename_i negative
      exact .inr ⟨List.mem_singleton.1 sign, negative⟩
    · cases sign
  · exact .inl (Nat.isDigit_of_mem_toDigits (by omega) (by omega) digit)

/-- Only a negative number has a sign. -/
theorem sign_mem_padded_iff {n : Int} : '-' ∈ padded n ↔ n < 0 := by
  constructor
  · intro mem
    rcases mem_padded mem with digit | ⟨-, negative⟩
    · exact absurd digit (by decide)
    · exact negative
  · intro negative
    rw [padded_eq, if_pos negative]
    simp

/-- The digits tell the number without its sign. -/
theorem ofDigitChars_padded (n : Int) : Nat.ofDigitChars 10 (padded n) 0 = n.natAbs := by
  rw [padded_eq, Nat.ofDigitChars_append, Nat.ofDigitChars_append, Nat.ofDigitChars_replicate_zero]
  have sign : Nat.ofDigitChars 10 (if n < 0 then ['-'] else []) (10 ^ zeros n * 0) = 0 := by
    split <;> simp [Nat.ofDigitChars]
  rw [sign, Nat.ofDigitChars_ten_toDigits]

theorem padded_injective {m n : Int} (same : padded m = padded n) : m = n := by
  have signs : m < 0 ↔ n < 0 := by rw [← sign_mem_padded_iff, ← sign_mem_padded_iff, same]
  have digits : m.natAbs = n.natAbs := by rw [← ofDigitChars_padded, ← ofDigitChars_padded, same]
  omega

end Padded

/-- A file name is cut where its number goes: before its last dot, or at its end. -/
theorem exists_cut (name : List Char) :
    ∃ stem rest, name = stem ++ rest ∧ (∀ n, numberedName name n = stem ++ '_' :: padded n ++ rest) ∧
      (rest = [] ∧ '.' ∉ name ∨ ∃ extension, rest = '.' :: extension ∧ '.' ∉ extension) := by
  by_cases mem : '.' ∈ name
  · obtain ⟨stem, extension, rfl, clear⟩ := exists_last mem
    refine ⟨stem, '.' :: extension, rfl, fun n => ?_, .inr ⟨extension, rfl, clear⟩⟩
    simp [numberedName, splitLast_append stem clear]
  · refine ⟨name, [], by simp, fun n => ?_, .inl ⟨rfl, mem⟩⟩
    simp [numberedName, splitLast_of_not_mem mem]

theorem numberedName_injective {name : List Char} {m n : Int} (same : numberedName name m = numberedName name n) :
    m = n := by
  obtain ⟨stem, rest, -, numbered, -⟩ := exists_cut name
  rw [numbered, numbered] at same
  have behind := List.append_cancel_right same
  have number := List.append_cancel_left behind
  exact padded_injective (List.cons.inj number).2

theorem slash_not_mem_numberedName {name : List Char} (clear : '/' ∉ name) (n : Int) : '/' ∉ numberedName name n := by
  obtain ⟨stem, rest, rfl, numbered, -⟩ := exists_cut name
  rw [List.mem_append, not_or] at clear
  rw [numbered, List.append_assoc, List.mem_append, List.cons_append, List.mem_cons, List.mem_append]
  rintro (inside | under | number | behind)
  · exact clear.1 inside
  · exact absurd under (by decide)
  · rcases mem_padded number with digit | ⟨sign, -⟩
    · exact absurd digit (by decide)
    · exact absurd sign (by decide)
  · exact clear.2 behind

theorem dot_not_mem_padded (n : Int) : '.' ∉ padded n := by
  intro mem
  rcases mem_padded mem with digit | ⟨sign, -⟩
  · exact absurd digit (by decide)
  · exact absurd sign (by decide)

theorem splitLast_numberedName (name : List Char) (n : Int) :
    (splitLast '.' (numberedName name n)).map Prod.snd = (splitLast '.' name).map Prod.snd := by
  obtain ⟨stem, rest, rfl, numbered, ⟨rfl, clear⟩ | ⟨extension, rfl, clear⟩⟩ := exists_cut name
  · rw [numbered, splitLast_of_not_mem clear, splitLast_of_not_mem]
    rw [List.append_nil] at clear ⊢
    rw [List.mem_append, List.mem_cons]
    rintro (inside | under | number)
    · exact clear inside
    · exact absurd under (by decide)
    · exact dot_not_mem_padded n number
  · rw [numbered, splitLast_append _ clear, splitLast_append _ clear]
    rfl

section Numbered

variable (path : String) (n : Int)

theorem toList_numbered : (numbered path n).toList = directory path ++ numberedName (fileName path) n := by
  unfold numbered directory fileName
  cases splitLast '/' path.toList <;> simp

theorem parts_numbered :
    directory (numbered path n) = directory path ∧ fileName (numbered path n) = numberedName (fileName path) n := by
  obtain ⟨-, ends, clear⟩ := parts_eq path
  exact parts_of_append (toList_numbered path n) ends (slash_not_mem_numberedName clear n)

theorem directory_numbered : directory (numbered path n) = directory path := (parts_numbered path n).1

theorem extension?_numbered : extension? (numbered path n) = extension? path := by
  rw [extension?, (parts_numbered path n).2]
  exact splitLast_numberedName (fileName path) n

theorem numbered_injective {m n : Int} (same : numbered path m = numbered path n) : m = n := by
  have names := congrArg String.toList same
  rw [toList_numbered, toList_numbered] at names
  exact numberedName_injective (List.append_cancel_left names)

end Numbered

section Joined

/-- Where a path starts can be told from its directory. -/
theorem isAbsolute_eq (path : String) : isAbsolute path = ((directory path).head? == some '/') := by
  obtain ⟨parts, ends, clear⟩ := parts_eq path
  rw [isAbsolute, parts]
  rcases ends with empty | ⟨before, ends⟩
  · rw [empty, List.nil_append]
    cases name : fileName path with
    | nil => rfl
    | cons c name' =>
      rw [name, List.mem_cons, not_or] at clear
      simpa using Ne.symm clear.1
  · rw [ends]
    cases before <;> rfl

/-- What stands before the paths of a directory when they are joined to a root. -/
theorem exists_front (root path : String) :
    ∃ front, IsDirectory front ∧
      ∀ other, directory other = directory path → (join root other).toList = front ++ other.toList := by
  by_cases absolute : isAbsolute path = true
  · refine ⟨[], .inl rfl, fun other same => ?_⟩
    rw [isAbsolute_eq, ← same, ← isAbsolute_eq] at absolute
    rw [join, if_pos absolute, List.nil_append]
  · by_cases isOpen_root : isOpen root = true
    · refine ⟨root.toList, ?_, fun other same => ?_⟩
      · unfold isOpen at isOpen_root
        rcases List.eq_nil_or_concat root.toList with empty | ⟨before, last, ends⟩
        · exact .inl empty
        · rw [ends] at isOpen_root
          obtain rfl : last = '/' := by simpa using isOpen_root
          exact .inr ⟨before, by rw [ends, List.concat_eq_append]⟩
      · rw [isAbsolute_eq, ← same, ← isAbsolute_eq] at absolute
        rw [join, if_neg absolute, if_pos isOpen_root, String.toList_append]
    · refine ⟨root.toList ++ ['/'], .inr ⟨_, rfl⟩, fun other same => ?_⟩
      rw [isAbsolute_eq, ← same, ← isAbsolute_eq] at absolute
      rw [join, if_neg absolute, if_neg isOpen_root, String.toList_append, String.toList_append]
      rfl

theorem IsDirectory.append {front cs : List Char} (first : IsDirectory front) (second : IsDirectory cs) :
    IsDirectory (front ++ cs) := by
  rcases second with rfl | ⟨before, rfl⟩
  · rwa [List.append_nil]
  · exact .inr ⟨front ++ before, by simp⟩

variable (root path : String) (n : Int)

/-- A number changes neither the directory of a joined path nor its extension. -/
theorem parts_join_numbered :
    directory (join root (numbered path n)) = directory (join root path) ∧
      extension? (join root (numbered path n)) = extension? path := by
  obtain ⟨front, front_ends, joined⟩ := exists_front root path
  have parts : ∀ other, directory other = directory path →
      directory (join root other) = front ++ directory path ∧ fileName (join root other) = fileName other := by
    intro other same
    obtain ⟨split, ends, clear⟩ := parts_eq other
    have whole : (join root other).toList = (front ++ directory path) ++ fileName other := by
      rw [joined other same, split, same, List.append_assoc]
    exact parts_of_append whole (front_ends.append (same ▸ ends)) clear
  obtain ⟨front_numbered, name_numbered⟩ := parts (numbered path n) (directory_numbered path n)
  obtain ⟨front_path, -⟩ := parts path rfl
  refine ⟨front_numbered.trans front_path.symm, ?_⟩
  rw [extension?, name_numbered]
  exact extension?_numbered path n

/-- Joined paths with different numbers are different. -/
theorem join_numbered_injective {m n : Int} (same : join root (numbered path m) = join root (numbered path n)) :
    m = n := by
  obtain ⟨front, -, joined⟩ := exists_front root path
  have texts := congrArg String.toList same
  rw [joined _ (directory_numbered path m), joined _ (directory_numbered path n)] at texts
  exact numbered_injective path (String.toList_injective (List.append_cancel_left texts))

end Joined

/-- Negative numbers and long ones. -/
example : [-12, -1, 7, 1000].map (numbered "a.b/shot.v2.png") =
    ["a.b/shot.v2_-12.png", "a.b/shot.v2_0-1.png", "a.b/shot.v2_007.png", "a.b/shot.v2_1000.png"] := by
  decide +kernel

end CanvasScript.FilePath
