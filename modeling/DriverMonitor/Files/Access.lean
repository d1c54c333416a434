import DriverMonitor.Files.Directory
import DriverMonitor.Files.Path
import DriverMonitor.Files.Timestamp

/-! # Access to files

What the program needs of a file system. It is a value, so that the same program runs on real files
and on a tree of files. Paths are texts; what they are relative to is for the file system to know.
-/

namespace DriverMonitor

structure FileAccess (m : Type → Type) where
  /-- What stands under a path. -/
  look : String → m (Except PathFault Entry)
  names? : String → m (Option (List String))
  /-- Makes a directory and all it lies in, and says whether it is there now. For the empty path
  there is nothing to make. -/
  makeDirectory : String → m Bool
  /-- Writes a file in place of the one under the path, and says whether it could. -/
  write : String → List UInt8 → m Bool
  /-- Removes a file, and says whether it could. -/
  remove : String → m Bool
  /-- When the entry under a path was changed last. -/
  modified? : String → m (Option Timestamp)

end DriverMonitor
