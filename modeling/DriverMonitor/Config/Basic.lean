import DriverMonitor.Failure
import DriverMonitor.Gaze.Angle

/-! # Configuration

Settings come in four sections. Every setting has a default, and `Config.validate` refuses values
that no deployment could run with, the first one in the order of the sections.
-/

namespace DriverMonitor

open Number (Single)

structure InferenceSettings where
  rateHz : Float := 30.0
  frameWidth : UInt32 := 640
  frameHeight : UInt32 := 480
  /-- Paces sources that do not block for each frame; absent, frames are read as fast as they
  come. -/
  captureRateHz : Option Float := none

structure GazeSettings where
  strategy : GazeStrategy := .auto
  /-- How far past the eyeball's centre the target of the gaze is pushed. -/
  extension : Float := 10.0
  /-- Residual in millimetres above which the map from the whole face is rejected. -/
  maxAffineResidual : Float := 12.0

structure IdentitySettings where
  /-- Mean embedding distance below which a driver is accepted. -/
  distanceThreshold : Single := ⟨0x3ee66666⟩
  slotCapacity : UInt32 := 4
  minEnrollmentSamples : Nat := 4
  embeddingDim : Nat := 128

structure StorageSettings where
  /-- Where profiles are kept, in place of the usual directory. -/
  profilesDir : Option String := none

structure Config where
  inference : InferenceSettings := {}
  gaze : GazeSettings := {}
  identity : IdentitySettings := {}
  storage : StorageSettings := {}

namespace Config

def default : Config := {}

/-- A rate in hertz that the loops can be paced at. -/
def isRate (x : Float) : Bool := 0.0 < x && x ≤ 1000.0

/-- The first setting that is refused. -/
def fault? (c : Config) : Option ConfigFault :=
  if !isRate c.inference.rateHz then some (.inferenceRate c.inference.rateHz)
  else if let some rate := c.inference.captureRateHz.filter (!isRate ·) then some (.captureRate rate)
  else if c.inference.frameWidth = 0 ∨ 4096 < c.inference.frameWidth then
    some (.frameWidth c.inference.frameWidth.toNat)
  else if c.inference.frameHeight = 0 ∨ 4096 < c.inference.frameHeight then
    some (.frameHeight c.inference.frameHeight.toNat)
  else if ¬ 1.0 < c.gaze.extension then some (.extension c.gaze.extension)
  else if ¬ 0.0 < c.gaze.maxAffineResidual then some (.affineResidual c.gaze.maxAffineResidual)
  else if !Single.zero.lt c.identity.distanceThreshold then
    some (.distanceThreshold c.identity.distanceThreshold)
  else if c.identity.slotCapacity = 0 then some .slotCapacity
  else if c.identity.minEnrollmentSamples = 0 then some .enrollmentSamples
  else if c.identity.embeddingDim = 0 ∨ 4096 < c.identity.embeddingDim then
    some (.embeddingDim c.identity.embeddingDim)
  else none

/-- Refuses settings that no deployment could run with. -/
def validate (c : Config) : Except Failure Unit :=
  match c.fault? with
  | some fault => .error (.config fault)
  | none => .ok ()

end Config

end DriverMonitor
