import CanvasScript.Disk
import CanvasScript.FilePath

/-!
# Files in memory

A tree of files as a disk. Paths are followed name by name, from the root or from
the current directory, where the files lie; every name but the last must be a
directory, and so must the last where a slash follows. Names and paths are as long
as the system takes them.
-/

namespace CanvasScript

/-- What is at a place of a tree. -/
inductive FileNode where
  | file (text : String)
  | directory
  /-- The device that is always empty. -/
  | nullDevice
  deriving DecidableEq

/-- What lies where: the names on the way from the root, and what is there. -/
structure FileTree where
  nodes : List (List String × FileNode)

namespace FileTree

/-- The place of the current directory; no path can spell its names. -/
def home : List String := ["/", "/"]

/-- The place that a path names from the current directory. -/
def placeOf (path : String) : List String := home ++ (path.splitOn "/").filter fun name => !name.isEmpty

/-- What lies outside the current directory. -/
def surroundings : List (List String × FileNode) := [(["dev", "null"], .nullDevice), (home, .directory)]

/-- The tree of files given by path and text; a path with a slash at its end is a directory. -/
def ofFiles (files : List (String × String)) : FileTree where
  nodes := surroundings ++
    files.map fun (path, text) => (placeOf path, if FilePath.isOpen path then .directory else .file text)

/-- What is at a place: also a directory that something else lies in. -/
def node? (tree : FileTree) (place : List String) : Option FileNode :=
  match tree.nodes.lookup place with
  | some node => some node
  | none => if tree.nodes.any fun node => place.isPrefixOf node.1 then some .directory else none

/-- How many bytes a name may have. -/
def nameLimit : Nat := 255

/-- How many bytes a path may have. -/
def pathLimit : Nat := 4095

/-- The place that a name leads to from another; the root is above itself. -/
def enter (tree : FileTree) (here : List String) (name : String) : Except String (List String) :=
  match tree.node? here with
  | none => .error Disk.missing
  | some (.file _) | some .nullDevice => .error Disk.notADirectory
  | some .directory =>
    if name = "" ∨ name = "." then .ok here
    else if name = ".." then .ok here.dropLast
    else if nameLimit < name.utf8ByteSize then .error Disk.tooLong
    else if (tree.node? (here ++ [name])).isSome then .ok (here ++ [name])
    else .error Disk.missing

/-- The place that a path names. -/
def locate (tree : FileTree) (path : String) : Except String (List String) :=
  if path.isEmpty then .error Disk.missing
  else if pathLimit < path.utf8ByteSize then .error Disk.tooLong
  else (path.splitOn "/").foldlM tree.enter (if FilePath.isAbsolute path then [] else home)

/-- The names of the files right in a place, in order. -/
def namesIn (tree : FileTree) (place : List String) : List String :=
  let names := tree.nodes.filterMap fun (path, node) =>
    match node with
    | .file _ => if path.dropLast = place then path.getLast? else none
    | _ => none
  names.mergeSort fun first second => !decide (second < first)

def text (tree : FileTree) (path : String) : Except String String := do
  match tree.node? (← tree.locate path) with
  | some (.file text) => .ok text
  | some .directory => .error Disk.isADirectory
  | some .nullDevice => .ok ""
  | none => .error Disk.missing

/-- The names of the files in a directory; those whose path would be too long are not seen. -/
def names (tree : FileTree) (path : String) : Except String (List String) :=
  match tree.locate path with
  | .error reason => if reason = Disk.missing then .ok [] else .error reason
  | .ok place =>
    match tree.node? place with
    | some .directory =>
      .ok ((tree.namesIn place).filter fun name => decide ((FilePath.join path name).utf8ByteSize ≤ pathLimit))
    | _ => .error Disk.notADirectory

/-- The tree as a disk. -/
def disk (tree : FileTree) : Disk where
  text := tree.text
  names := tree.names

end FileTree

end CanvasScript
