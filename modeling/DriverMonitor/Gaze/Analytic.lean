import DriverMonitor.Gaze.Angle
import DriverMonitor.Gaze.Features

/-! # The calibrated gaze model

Each angle is the weighted sum of its axis' features. Every product enters the sum, also one with a
zero weight, so that a feature that is not a number is never hidden.
-/

namespace DriverMonitor

variable {α : Type} [Scalar α]

/-- The sum of the products of weights and features, from the first term to the last. -/
def weightedSum (weights : Terms Number.Single) (features : Terms α) : α :=
  Scalar.sum (weights.zipWith (fun w f => Scalar.ofSingle w * f) features).toList

namespace AnalyticGaze

def angle (c : GazeCoefficients) (features : GazeFeatures α) : GazeAngle α where
  yaw := weightedSum c.horizontal features.horizontal
  pitch := weightedSum c.vertical features.vertical

def estimateLandmarks (c : GazeCoefficients) (g : GazeLandmarks α) : Except Failure (GazeAngle α) :=
  let gaze := angle c (.ofLandmarks g)
  if gaze.isFinite then .ok gaze else .error (.degenerateGeometry .nonFiniteAnalyticAngle)

def estimate (c : GazeCoefficients) (f : Face α) : Except Failure (GazeAngle α) :=
  estimateLandmarks c (.ofFace f)

end AnalyticGaze

end DriverMonitor
