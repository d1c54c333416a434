import DriverMonitor.Face.Eye
import DriverMonitor.Gaze.Model

/-! # The state of the driver

One inference turns a face into a driver state: a gaze, the openness of both eyes, and which model
saw them. A face with a coordinate that is no finite number is refused before the model sees it.
-/

namespace DriverMonitor

/-- The result of one inference. -/
structure DriverState (α : Type) where
  gaze : GazeAngle α
  eyes : EyeOpenness α
  model : GazeModelKind
  /-- The measured rate of the inference that produced the state. -/
  rateHz : α
  deriving Repr, BEq, DecidableEq

namespace DriverState

variable {α : Type} [Scalar α]

def estimate (model : GazeModel α) (face : Face α) (rateHz : α) :
    Except Failure (DriverState α) := do
  if !face.isFinite then throw (.degenerateGeometry .nonFiniteLandmarks)
  let gaze ← model.estimate face
  return ⟨gaze, .ofFace face, model.kind, rateHz⟩

end DriverState

end DriverMonitor
