import DriverMonitor.Config.Basic
import DriverMonitor.Identity.Store

/-! # Authentication

A probe belongs to the driver whose stored embeddings are nearest on average, if that mean distance
is below a threshold. Only stored embeddings of the probe's length count, and slots that are empty or
unreadable score nothing. Scores are compared in the total order of all words, so that a score which
is not a number has a place as well; of equal scores the lower slot wins.
-/

namespace DriverMonitor

open Number (Single)

/-- Distance between a probe and a stored embedding. -/
abbrev Metric := Embedding → Embedding → Single

/-- Distance in space. Values without a counterpart are left out. -/
def Metric.euclidean : Metric := fun probe stored =>
  (Single.sum (List.zipWith (fun a b => (a - b) * (a - b)) probe stored)).sqrt

/-- Why a probe belongs to nobody. -/
inductive Rejection where
  /-- There has to be exactly one face. -/
  | faceCount (faces : Nat)
  /-- No slot holds anything to compare with. -/
  | noEnrolledDrivers
  /-- The nearest driver is not near enough. -/
  | noMatch (slot : SlotId) (distance : Single)
  deriving DecidableEq, Repr

def Rejection.message : Rejection → String
  | .faceCount 0 => "no face detected"
  | .faceCount n => s!"{n} faces detected, expected exactly one"
  | .noEnrolledDrivers => "no enrolled drivers"
  | .noMatch slot distance =>
    s!"closest driver (slot {slot}) is at distance {Number.fixed 3 distance.reading}"

/-- Whom a probe belongs to. -/
inductive AuthOutcome where
  | accepted (slot : SlotId) (name : String) (distance : Single)
  | rejected (reason : Rejection)
  deriving DecidableEq, Repr

namespace AuthOutcome

def isAccepted : AuthOutcome → Bool
  | accepted .. => true
  | rejected _ => false

def driverName? : AuthOutcome → Option String
  | accepted _ name _ => some name
  | rejected _ => none

end AuthOutcome

/-- What a slot scored: the driver's name if its profile is readable, and the mean distance if there
was anything to compare with. -/
structure SlotScore where
  slot : SlotId
  name : Option String
  distance : Option Single
  deriving DecidableEq, Repr

structure Candidate where
  slot : SlotId
  name : String
  distance : Single
  deriving DecidableEq, Repr

/-- The candidate that a score makes. -/
def SlotScore.candidate? (s : SlotScore) : Option Candidate :=
  return ⟨s.slot, ← s.name, ← s.distance⟩

/-- The candidate of least distance, the first of several. -/
def Candidate.nearest? : List Candidate → Option Candidate
  | [] => none
  | c :: rest =>
    some (rest.foldl (fun best d => if (d.distance.total best.distance).isLT then d else best) c)

/-- The rule by which drivers are identified. -/
structure Matcher where
  threshold : Single
  /-- Probes of any other length are refused; absent, every length is matched. -/
  embeddingDim : Option Nat := none
  metric : Metric := .euclidean

namespace Matcher

def ofConfig (c : Config) : Matcher where
  threshold := c.identity.distanceThreshold
  embeddingDim := some c.identity.embeddingDim

/-- The stored embeddings that a probe is compared with. -/
def comparable (probe : Embedding) (profile : Profile) : List EmbeddingVector :=
  profile.embeddings.filter (·.length == probe.length)

/-- Mean distance from a probe to a profile, if there is anything to compare with. -/
def scoreProfile (m : Matcher) (probe : Embedding) (profile : Profile) : Option Single :=
  match comparable probe profile with
  | [] => none
  | vectors => some (Single.mean (vectors.map fun v => m.metric probe v.values))

/-- The slots that are scored: all of them, or the slots for enrollment if they cannot be listed. -/
def scoredSlots (store : Store) : List SlotId := store.slots.toOption.getD store.numbered

/-- The readable profile of a slot. -/
def readable? (store : Store) (slot : SlotId) : Option Profile :=
  (store.load slot).toOption.join

def scores (m : Matcher) (probe : Embedding) (store : Store) : List SlotScore :=
  (scoredSlots store).map fun slot =>
    let profile := readable? store slot
    ⟨slot, profile.map (·.name), profile.bind (m.scoreProfile probe)⟩

/-- How many distances a probe takes to be scored. -/
def comparisons (probe : Embedding) (store : Store) : Nat :=
  (((scoredSlots store).filterMap (readable? store)).flatMap (comparable probe)).length

/-- The probe that faces give: there has to be one face, and its embedding needs the right length. -/
def probe (m : Matcher) : List Embedding → Except Failure (Except Rejection Embedding)
  | [probe] =>
    match m.embeddingDim with
    | some expected =>
      if probe.length = expected then .ok (.ok probe)
      else .error (.dimensionMismatch expected probe.length)
    | none => .ok (.ok probe)
  | faces => .ok (.error (.faceCount faces.length))

/-- Decides on the best of all scores. -/
def decide (m : Matcher) (scores : List SlotScore) : AuthOutcome :=
  match Candidate.nearest? (scores.filterMap SlotScore.candidate?) with
  | none => .rejected .noEnrolledDrivers
  | some best =>
    if best.distance.lt m.threshold then .accepted best.slot best.name best.distance
    else .rejected (.noMatch best.slot best.distance)

/-- Decides whom the faces in an image belong to. A probe of a wrong length is a failure, not a
rejection. -/
def authenticate (m : Matcher) (faces : List Embedding) (store : Store) :
    Except Failure AuthOutcome := do
  match ← m.probe faces with
  | .error rejection => return .rejected rejection
  | .ok probe => return m.decide (m.scores probe store)

end Matcher

end DriverMonitor
