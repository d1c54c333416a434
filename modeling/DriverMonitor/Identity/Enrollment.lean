import DriverMonitor.Config.Basic
import DriverMonitor.Identity.Store

/-! # Enrollment

A driver is enrolled with enough embeddings of the right length, in a given slot or in the lowest
free one. A given slot is overwritten; without one, no driver is ever replaced. All checks come
before the one write.
-/

namespace DriverMonitor

/-- What embeddings have to satisfy. -/
structure EnrollmentPolicy where
  minSamples : Nat
  embeddingDim : Nat
  deriving DecidableEq, Repr

namespace EnrollmentPolicy

def ofConfig (c : Config) : EnrollmentPolicy :=
  ⟨c.identity.minEnrollmentSamples, c.identity.embeddingDim⟩

/-- Refuses too few embeddings, then the first one of a wrong length. -/
def check (policy : EnrollmentPolicy) (embeddings : List Embedding) : Except Failure Unit :=
  if embeddings.length < policy.minSamples then
    .error (.insufficientSamples embeddings.length policy.minSamples)
  else
    match embeddings.find? (·.length != policy.embeddingDim) with
    | some wrong => .error (.dimensionMismatch policy.embeddingDim wrong.length)
    | none => .ok ()

end EnrollmentPolicy

namespace Store

/-- The slot that an enrollment goes to. -/
def enrollmentSlot (s : Store) : Option SlotId → Except Failure SlotId
  | some slot =>
    if slot.number = 0 ∨ s.capacity < slot.number then .error (.invalidSlot slot s.capacity)
    else .ok slot
  | none => s.nextFree?.elim (.error (.slotsFull s.capacity)) .ok

/-- Stores a new driver and says in which slot. -/
def enroll (s : Store) (policy : EnrollmentPolicy) (slot : Option SlotId) (name : String)
    (embeddings : List Embedding) (weights : Option GazeCoefficients) :
    Except Failure (SlotId × Store) := do
  policy.check embeddings
  let slot ← s.enrollmentSlot slot
  let s ← s.save slot
    { name, embeddings := embeddings.map .column, weights := weights.getD .zero }
  return (slot, s)

end Store

end DriverMonitor
