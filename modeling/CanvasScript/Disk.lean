/-!
# Disks

What can be read on a disk, by path. Where reading fails the system's reason is
given in its place. A directory that is missing is listed as empty. A path with a
NUL in it is refused before the disk is asked.
-/

namespace CanvasScript

/-- What can be read on a disk. -/
structure Disk where
  /-- The text of a file, or why it cannot be read. -/
  text : String → Except String String
  /-- The names of the plain files in a directory, or why it cannot be listed. -/
  names : String → Except String (List String)

namespace Disk

/-- What the system says of a path where nothing is. -/
def missing : String := "No such file or directory (os error 2)"

/-- What the system says of a path through or to a file where a directory is needed. -/
def notADirectory : String := "Not a directory (os error 20)"

/-- What the system says of a directory where a file is needed. -/
def isADirectory : String := "Is a directory (os error 21)"

/-- What the system says of a name or a path that is too long. -/
def tooLong : String := "File name too long (os error 36)"

/-- What is said of a path with a NUL in it. -/
def hasNul : String := "file name contained an unexpected NUL byte"

/-- What the system says of a file whose bytes are no text. -/
def notText : String := "stream did not contain valid UTF-8"

/-- The path of a file or directory, or why it can be none. -/
def checked (path : String) : Except String String :=
  if path.toList.contains '\x00' then .error hasNul else .ok path

/-- The text of a file. -/
def read (disk : Disk) (path : String) : Except String String := checked path >>= disk.text

/-- The names of the plain files in a directory. -/
def list (disk : Disk) (path : String) : Except String (List String) := checked path >>= disk.names

/-- The disk of which these files and directories have been read. -/
def ofReads (texts : List (String × Except String String)) (listings : List (String × Except String (List String))) :
    Disk where
  text path := (texts.lookup path).getD (.error missing)
  names path := (listings.lookup path).getD (.ok [])

/-- The disk with nothing on it. -/
def empty : Disk := ofReads [] []

end Disk

end CanvasScript
