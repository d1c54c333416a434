import DriverMonitor.Command.Run

/-! # The program

Runs a command on the files of the machine.
-/

namespace DriverMonitor

/-- An answer, or nothing where the file system refuses. -/
def orNone {α : Type} (action : IO α) : IO (Option α) := do
  try
    return some (← action)
  catch _ => return none

/-- Whether the file system does something. -/
def succeeds (action : IO Unit) : IO Bool := return (← orNone action).isSome

/-- What stands under a path. What cannot be read counts as a directory, which cannot be read
either. -/
def diskLook (path : String) : IO (Except PathFault Entry) := do
  try
    let place ← IO.FS.realPath path
    let data ← place.metadata
    if data.type matches .dir then return .ok .directory
    let bytes ← orNone (IO.FS.readBinFile place)
    return .ok (bytes.elim .directory fun b => .file b.toList)
  catch
    | .noFileOrDirectory .. => return .error .missing
    | _ => return .error .refused

def diskNames? (path : String) : IO (Option (List String)) := do
  let some place ← orNone (IO.FS.realPath path) | return none
  let listed ← orNone place.readDir
  return listed.map fun entries => entries.toList.map (·.fileName)

def diskModified? (path : String) : IO (Option Timestamp) := do
  let some place ← orNone (IO.FS.realPath path) | return none
  let data ← orNone place.metadata
  return data.map fun d => ⟨d.modified.sec, d.modified.nsec.toNat⟩

def diskAccess : FileAccess IO where
  look := diskLook
  names? := diskNames?
  makeDirectory path := if path.isEmpty then pure true else succeeds (IO.FS.createDirAll path)
  write path bytes := succeeds (IO.FS.writeBinFile path ⟨bytes.toArray⟩)
  remove path := succeeds (IO.FS.removeFile path)
  modified? := diskModified?

def runOnDisk (arguments : List String) : IO UInt32 := do
  let env : DataHome := { home := ← IO.getEnv "HOME", dataHome := ← IO.getEnv "XDG_DATA_HOME" }
  let report ← runProgram diskAccess env arguments
  for line in report.lines do
    IO.println line.render
  for line in report.errors do
    IO.eprintln line
  return report.code

end DriverMonitor

def main (arguments : List String) : IO UInt32 := DriverMonitor.runOnDisk arguments
