/-!
# Paths

Paths are texts with slashes. Joining puts a slash between two paths where there
is none; nothing is normalised. `numbered` puts a number behind the name of a file
and before its extension.
-/

namespace CanvasScript.FilePath

/-- A path that starts with a slash stands alone. -/
def isAbsolute (path : String) : Bool := path.toList.head? == some '/'

/-- A path that takes another one behind it without a slash. -/
def isOpen (path : String) : Bool := path.toList.getLast?.all (· == '/')

/-- A path behind another, unless it stands alone. -/
def join (root path : String) : String :=
  if isAbsolute path then path else if isOpen root then root ++ path else root ++ "/" ++ path

/-- The address of a file. -/
def url (path : String) : String := "file://" ++ path

/-- A text without the slashes at its ends. -/
def trimSlashes (path : String) : String :=
  String.ofList (((path.toList.dropWhile (· == '/')).reverse.dropWhile (· == '/')).reverse)

/-- What a text has up to and with the last occurrence of a character, and what
follows it. -/
def splitLast (sep : Char) (cs : List Char) : Option (List Char × List Char) :=
  match cs.reverse.dropWhile (· != sep) with
  | [] => none
  | before => some (before.reverse, (cs.reverse.takeWhile (· != sep)).reverse)

/-- A number in decimal digits, with zeros on the left to at least three characters. -/
def padded (n : Int) : List Char :=
  let text := (toString n).toList
  List.replicate (3 - text.length) '0' ++ text

/-- A file name with a number before its extension. -/
def numberedName (name : List Char) (n : Int) : List Char :=
  match splitLast '.' name with
  | some (stem, extension) => stem.dropLast ++ '_' :: padded n ++ '.' :: extension
  | none => name ++ '_' :: padded n

/-- A path with a number before the extension of its file name. -/
def numbered (path : String) (n : Int) : String :=
  match splitLast '/' path.toList with
  | some (directory, name) => String.ofList (directory ++ numberedName name n)
  | none => String.ofList (numberedName path.toList n)

end CanvasScript.FilePath
