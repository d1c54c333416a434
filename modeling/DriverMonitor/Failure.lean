import DriverMonitor.Identity.Slot
import DriverMonitor.Number.Decimal

/-! # Failures

A failure names its cause; the wording is in `Failure.message` alone. Causes that carry a limit or
a found value carry it as a number, so that who handles a failure never reads its text.
-/

namespace DriverMonitor

open Number (Single)

/-- The part of a profile file at which its bytes ended. -/
inductive ProfilePart where
  | vectorCount
  | vectorRows
  | vectorCols
  | vectorPayload
  | gazeCoefficients
  | nameLength
  | name
  deriving DecidableEq, Repr

def ProfilePart.text : ProfilePart → String
  | .vectorCount => "vector count"
  | .vectorRows => "vector rows"
  | .vectorCols => "vector cols"
  | .vectorPayload => "vector payload"
  | .gazeCoefficients => "gaze coefficients"
  | .nameLength => "name length"
  | .name => "name"

/-- Largest number of vectors, of values in a vector, and of bytes of a name that are read. -/
def maxVectors : Nat := 1024

@[inherit_doc maxVectors]
def maxVectorValues : Nat := 65536

@[inherit_doc maxVectors]
def maxNameBytes : Nat := 4096

/-- Why bytes are no profile. -/
inductive Corruption where
  | truncated (part : ProfilePart)
  | tooManyVectors (count : Nat)
  | implausibleShape (index rows cols : Nat)
  | nameTooLong (length : Nat)
  | nameNotText
  deriving DecidableEq, Repr

def Corruption.message : Corruption → String
  | .truncated part => s!"truncated while reading {part.text}"
  | .tooManyVectors count => s!"{count} embedding vectors exceeds {maxVectors}"
  | .implausibleShape index rows cols =>
    s!"vector {index} has implausible shape ({rows}, {cols})"
  | .nameTooLong length => s!"name length {length} exceeds {maxNameBytes}"
  | .nameNotText => "name is not UTF-8"

inductive PoseFault where
  | countMismatch (model image : Nat)
  | tooFewPoints (got : Nat)
  | noConvergence
  deriving DecidableEq, Repr

def PoseFault.message : PoseFault → String
  | .countMismatch model image => s!"{model} model points but {image} image points"
  | .tooFewPoints got => s!"need at least 4 correspondences, got {got}"
  | .noConvergence => "no start converged in front of the camera"

inductive Degeneracy where
  | nonFiniteLandmarks
  | nonFiniteAnalyticAngle
  | nonFinitePoseAngle
  | nonFiniteFeatures
  | dependentFeatures
  | collinearLandmarks
  deriving DecidableEq, Repr

def Degeneracy.message : Degeneracy → String
  | .nonFiniteLandmarks => "landmarks contain non-finite values"
  | .nonFiniteAnalyticAngle => "analytic gaze produced a non-finite angle"
  | .nonFinitePoseAngle => "pose gaze produced a non-finite angle"
  | .nonFiniteFeatures => "calibration sample produced non-finite features"
  | .dependentFeatures => "calibration samples do not vary enough to fit every term"
  | .collinearLandmarks => "face landmarks are collinear in the image"

/-- Why a frame gave no landmarks. -/
inductive ExtractionFault where
  | shortMesh (got : Nat)
  | unreadableLine (line : Nat)
  | reported (text : String)
  deriving DecidableEq, Repr

/-- Points that a face mesh needs to have. -/
def meshSize : Nat := 478

def ExtractionFault.message : ExtractionFault → String
  | .shortMesh got => s!"face mesh has {got} points, expected {meshSize}"
  | .unreadableLine line => s!"line {line}"
  | .reported text => text

inductive ConfigFault where
  | notFound (path : String)
  | unparsable
  | inferenceRate (got : Float)
  | captureRate (got : Float)
  | frameWidth (got : Nat)
  | frameHeight (got : Nat)
  | extension (got : Float)
  | affineResidual (got : Float)
  | distanceThreshold (got : Single)
  | slotCapacity
  | enrollmentSamples
  | embeddingDim (got : Nat)
  | noHome

def ConfigFault.message : ConfigFault → String
  | .notFound path => s!"Config file not found: {path}"
  | .unparsable => "Config parse error"
  | .inferenceRate got => s!"Inference rate must be in (0, 1000] Hz, got {Number.messageText got}"
  | .captureRate got => s!"Capture rate must be in (0, 1000] Hz, got {Number.messageText got}"
  | .frameWidth got => s!"Frame width must be between 1 and 4096, got {got}"
  | .frameHeight got => s!"Frame height must be between 1 and 4096, got {got}"
  | .extension got => s!"Gaze extension must be greater than 1, got {Number.messageText got}"
  | .affineResidual got => s!"Affine residual limit must be positive, got {Number.messageText got}"
  | .distanceThreshold got => s!"Distance threshold must be positive, got {got.messageText}"
  | .slotCapacity => "Slot capacity must be at least 1"
  | .enrollmentSamples => "At least one enrollment sample is required"
  | .embeddingDim got => s!"Embedding dimension must be between 1 and 4096, got {got}"
  | .noHome => "Failed to get project dirs"

/-- Everything that can go wrong. -/
inductive Failure where
  | storageUnavailable (slot : SlotId)
  | corruptProfile (slot : SlotId) (reason : Corruption)
  | calibrationMissing
  | slotsFull (capacity : UInt32)
  | invalidSlot (slot : SlotId) (capacity : UInt32)
  | insufficientSamples (got need : Nat)
  | dimensionMismatch (expected got : Nat)
  | poseEstimation (cause : PoseFault)
  | degenerateGeometry (cause : Degeneracy)
  | extraction (cause : ExtractionFault)
  | config (cause : ConfigFault)
  /-- A file could not be opened, listed or read. -/
  | io
  /-- A data file does not hold what it should. -/
  | json
  /-- The inference loop ended in a crash. -/
  | inferenceCrashed

def Failure.message : Failure → String
  | .storageUnavailable slot => s!"Profile storage unavailable for slot {slot}"
  | .corruptProfile slot reason => s!"Corrupt driver profile in slot {slot}: {reason.message}"
  | .calibrationMissing => "Analytic gaze model requires per-driver calibration coefficients"
  | .slotsFull capacity => s!"All {capacity} enrollment slots are in use"
  | .invalidSlot slot capacity => s!"Slot {slot} is outside 1..={capacity}"
  | .insufficientSamples got need => s!"Not enough samples: got {got}, need at least {need}"
  | .dimensionMismatch expected got =>
    s!"Embedding dimension mismatch: expected {expected}, got {got}"
  | .poseEstimation cause => s!"Head pose estimation failed: {cause.message}"
  | .degenerateGeometry cause => s!"Degenerate landmark geometry: {cause.message}"
  | .extraction cause => s!"Landmark extraction error: {cause.message}"
  | .config cause => s!"Config error: {cause.message}"
  | .io => "IO error"
  | .json => "JSON error"
  | .inferenceCrashed => "Other error: inference thread panicked"

/-- Steps in turn succeed if each of them does. -/
theorem exists_of_bind_eq_ok {ε α β : Type} {first : Except ε α} {next : α → Except ε β} {b : β}
    (ends : (first >>= next) = .ok b) : ∃ a, first = .ok a ∧ next a = .ok b := by
  cases first with
  | error failure => cases ends
  | ok a => exact ⟨a, rfl, ends⟩

end DriverMonitor
