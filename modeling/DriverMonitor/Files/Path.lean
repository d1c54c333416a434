/-! # Paths

A path is a text of names with slashes between them. It begins at the root if it begins with a slash,
and else at the working directory. The empty name and `.` lead nowhere else and `..` leads up, but
none of the three is known to do so before the names in front of it have been followed.

The empty path leads to nothing, not even to the working directory, and texts that are too long or
hold a character of code zero are no paths at all.
-/

namespace DriverMonitor

/-- Why a path does not lead to anything. -/
inductive PathFault where
  /-- Nothing stands under one of its names. -/
  | missing
  /-- It leads through a file, or it is no path. -/
  | refused
  deriving DecidableEq, Repr

structure Path where
  absolute : Bool
  /-- What stands between the slashes. -/
  names : List String
  deriving DecidableEq, Repr

namespace Path

/-- Largest number of bytes in a path. -/
def maxBytes : Nat := 4095

/-- Largest number of bytes in a name. -/
def maxNameBytes : Nat := 255

def ofText (text : String) : Except PathFault Path :=
  if text.isEmpty then .error .missing
  else if maxBytes < text.utf8ByteSize ∨ text.any (· == '\x00') then .error .refused
  else .ok ⟨text.startsWith "/", (text.toList.splitOn '/').map String.ofList⟩

/-- Whether a name leads from a directory to the directory itself. -/
def isIdle (name : String) : Bool := name = "" ∨ name = "."

/-- The path without the names that lead nowhere else. -/
def steps (p : Path) : Path := { p with names := p.names.filter (!isIdle ·) }

/-- The path without slashes at its end. -/
def withoutSlashes (p : Path) : Path :=
  { p with names := (p.names.reverse.dropWhile (· == "")).reverse }

/-- The path of what a path lies in, and the last name. -/
def split? (p : Path) : Option (Path × String) :=
  p.names.getLast?.map fun name => ({ p with names := p.names.dropLast }, name)

end Path

/-- A path from a directory on. A path that begins at the root does not depend on the directory. -/
def joinPath (directory name : String) : String :=
  if directory.isEmpty ∨ name.startsWith "/" then name
  else if directory.endsWith "/" then directory ++ name
  else directory ++ "/" ++ name

end DriverMonitor
