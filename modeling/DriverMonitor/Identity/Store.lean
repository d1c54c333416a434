import DriverMonitor.Files.Directory
import DriverMonitor.Identity.Profile.Codec

/-! # The profile store

The profiles of all drivers are the files `<slot>.bin` of one directory. Slots from 1 to the capacity
are for enrollment; a file of any other number is still read. Files are listed by reading their
names as slots, which is more liberal than the names that files are looked up by: `007.bin` lists
slot 7, whose own file is `7.bin`.

The directory may be gone. Then nothing can be listed or saved, and no slot holds a profile. Or it
may be one whose files can be reached but not listed.
-/

namespace DriverMonitor

/-- The directory of profiles, if it is there, and how many slots are for enrollment. -/
structure Store where
  directory : Option Directory
  capacity : UInt32
  /-- Whether the files of the directory can be listed. -/
  listable : Bool := true
  deriving DecidableEq, Repr

def SlotId.fileName (slot : SlotId) : String := s!"{slot}.bin"

/-- The slot that a file name lists. -/
def SlotId.ofFileName? (name : String) : Option SlotId :=
  match name.toList.reverse with
  | 'n' :: 'i' :: 'b' :: '.' :: stem => SlotId.parse? (String.ofList stem.reverse)
  | _ => none

/-- Puts a slot into an increasing list, where it stands only once. -/
def insertSlot (slot : SlotId) : List SlotId → List SlotId
  | [] => [slot]
  | other :: rest =>
    if slot.number < other.number then slot :: other :: rest
    else if slot = other then other :: rest
    else other :: insertSlot slot rest

namespace Store

/-- What stands in the place of a slot's file. -/
def entry? (s : Store) (slot : SlotId) : Option Entry :=
  s.directory.bind (·.find? slot.fileName)

/-- Whether anything stands in the place of a slot's file. -/
def isTaken (s : Store) (slot : SlotId) : Bool := (s.entry? slot).isSome

/-- Writes a profile in place of the one in the slot. -/
def save (s : Store) (slot : SlotId) (profile : Profile) : Except Failure Store :=
  match s.directory with
  | none => .error (.storageUnavailable slot)
  | some d =>
    if d.find? slot.fileName = some .directory then .error (.storageUnavailable slot)
    else .ok { s with directory := some (d.insert slot.fileName (.file profile.encode)) }

def load (s : Store) (slot : SlotId) : Except Failure (Option Profile) :=
  match s.entry? slot with
  | none => .ok none
  | some .directory => .error (.storageUnavailable slot)
  | some (.file bytes) => (Profile.decode slot bytes).map some

/-- Removes the profile in a slot and says whether there was one. -/
def remove (s : Store) (slot : SlotId) : Except Failure (Bool × Store) :=
  match s.entry? slot with
  | none => .ok (false, s)
  | some .directory => .error (.storageUnavailable slot)
  | some (.file _) => .ok (true, { s with directory := s.directory.map (·.erase slot.fileName) })

/-- The slots for enrollment. -/
def numbered (s : Store) : List SlotId := (List.range' 1 s.capacity.toNat).map SlotId.ofNat

/-- The slots for enrollment and every other slot that a file name lists, in increasing order. -/
def slots (s : Store) : Except Failure (List SlotId) :=
  match s.directory.filter fun _ => s.listable with
  | none => .error .io
  | some d => .ok ((d.names.filterMap SlotId.ofFileName?).foldr insertSlot s.numbered)

/-- The slots in whose places files stand, readable or not. -/
def enrolled (s : Store) : Except Failure (List SlotId) :=
  s.slots.map (·.filter s.isTaken)

/-- The first of `count` slots from `first` on that is free. -/
def firstFree (s : Store) : Nat → Nat → Option SlotId
  | _, 0 => none
  | first, count + 1 =>
    if s.isTaken (.ofNat first) then s.firstFree (first + 1) count else some (.ofNat first)

/-- The lowest free slot for enrollment. -/
def nextFree? (s : Store) : Option SlotId := s.firstFree 1 s.capacity.toNat

end Store

end DriverMonitor
