import DriverMonitor.Files.Access
import DriverMonitor.Identity.Enrollment

/-! # Stores on files

An open store is the path of a directory and what the directory held when it was looked at. Each
operation does to the files what the operation of the same name does to the store. A slot may have a
file that cannot even be asked for, because its path is too long; then the slot is unavailable.
-/

namespace DriverMonitor

/-- The store of a directory, under the path that it was asked for by. -/
structure OpenStore where
  path : String
  store : Store

namespace OpenStore

variable {m : Type → Type} [Monad m]

/-- Where the file of a slot is. -/
def slotPath (s : OpenStore) (slot : SlotId) : String := joinPath s.path slot.fileName

/-- What stands under a name in the directory of a path, if that can be told. -/
def member? (access : FileAccess m) (path name : String) : m (Option (String × Entry)) := do
  return (← access.look (joinPath path name)).toOption.map (name, ·)

/-- Looks at a directory. The empty path leads to none that could be listed, but the files that it
is put in front of are those of the working directory. -/
def view (access : FileAccess m) (path : String) (capacity : UInt32) : m OpenStore := do
  let names ← access.names? (if path.isEmpty then "." else path)
  let directory ← names.mapM fun names => return ⟨← names.filterMapM (member? access path)⟩
  return ⟨path, { directory, capacity, listable := !path.isEmpty }⟩

/-- Opens the store of a directory, which is made if it is not there. -/
def create (access : FileAccess m) (path : String) (capacity : UInt32) :
    ExceptT Failure m OpenStore := do
  unless ← access.makeDirectory path do throw .io
  ExceptT.lift (view access path capacity)

/-- Goes on if the file of a slot can be asked for, whether it is there or not. -/
def reach (access : FileAccess m) (s : OpenStore) (slot : SlotId) : ExceptT Failure m Unit := do
  if (← access.look (s.slotPath slot)) matches .error .refused then
    throw (.storageUnavailable slot)

/-- Makes the file of a slot what it is in a changed store. -/
def commit (access : FileAccess m) (s : OpenStore) (slot : SlotId) (changed : Store) :
    ExceptT Failure m Unit := do
  let done ← match changed.entry? slot with
    | some (.file bytes) => access.write (s.slotPath slot) bytes
    | _ => access.remove (s.slotPath slot)
  unless done do throw (.storageUnavailable slot)

def save (access : FileAccess m) (s : OpenStore) (slot : SlotId) (profile : Profile) :
    ExceptT Failure m Unit := do
  s.commit access slot (← liftExcept (s.store.save slot profile))

def load (access : FileAccess m) (s : OpenStore) (slot : SlotId) :
    ExceptT Failure m (Option Profile) := do
  s.reach access slot
  liftExcept (s.store.load slot)

def remove (access : FileAccess m) (s : OpenStore) (slot : SlotId) : ExceptT Failure m Bool := do
  s.reach access slot
  let (removed, changed) ← liftExcept (s.store.remove slot)
  if removed then s.commit access slot changed
  return removed

def modified? (access : FileAccess m) (s : OpenStore) (slot : SlotId) :
    ExceptT Failure m (Option Timestamp) := do
  s.reach access slot
  access.modified? (s.slotPath slot)

def enroll (access : FileAccess m) (s : OpenStore) (policy : EnrollmentPolicy)
    (slot : Option SlotId) (name : String) (embeddings : List Embedding)
    (weights : Option GazeCoefficients) : ExceptT Failure m SlotId := do
  let (slot, changed) ← liftExcept (s.store.enroll policy slot name embeddings weights)
  s.commit access slot changed
  return slot

end OpenStore

end DriverMonitor
