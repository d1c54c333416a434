/-! # Guarded cells

A cell holds the latest value of a datum that several parties share. Whoever takes the lock sees the
value and its version, may write any number of times, and gives the lock back; the version then
grows by one if anything was written. It does so however the section ends, so a holder that crashes
leaves at worst a stale value. A reader that keeps the last version it saw can tell whether there is
a newer value.
-/

namespace DriverMonitor

/-- The latest value and how many sections have written it. -/
structure Cell (α : Type) where
  value : α
  /-- Counted without bound. A word of 64 bits shows the same until that many sections have written. -/
  version : Nat := 0
  deriving DecidableEq, Repr

/-- Exclusive access to a cell. -/
structure Guard (α : Type) where
  value : α
  /-- The version at which the lock was taken. -/
  version : Nat
  /-- Whether anything was written since. -/
  dirty : Bool := false
  deriving DecidableEq, Repr

namespace Guard

variable {α : Type}

def write (f : α → α) (g : Guard α) : Guard α := { g with value := f g.value, dirty := true }

def release (g : Guard α) : Cell α := ⟨g.value, g.version + if g.dirty then 1 else 0⟩

/-- Writes one after the other under the same lock. -/
def writeAll (fs : List (α → α)) (g : Guard α) : Guard α := fs.foldl (fun g f => g.write f) g

end Guard

namespace Cell

variable {α : Type}

def lock (c : Cell α) : Guard α := ⟨c.value, c.version, false⟩

/-- Puts a value in the place of the current one. -/
def publish (c : Cell α) (value : α) : Cell α := (c.lock.write fun _ => value).release

/-- A section that writes in order, none or several times. -/
def modify (c : Cell α) (fs : List (α → α)) : Cell α := (c.lock.writeAll fs).release

def snapshot (c : Cell α) : Nat × α := (c.version, c.value)

/-- The version and value, if they are newer than a version seen before. -/
def newerThan? (c : Cell α) (seen : Nat) : Option (Nat × α) :=
  if seen < c.version then some c.snapshot else none

@[simp] theorem publish_value (c : Cell α) (value : α) : (c.publish value).value = value := rfl

@[simp] theorem publish_version (c : Cell α) (value : α) :
    (c.publish value).version = c.version + 1 := rfl

end Cell

end DriverMonitor
