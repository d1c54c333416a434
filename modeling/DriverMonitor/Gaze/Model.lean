import DriverMonitor.Config.Basic
import DriverMonitor.Gaze.Analytic
import DriverMonitor.Gaze.Pose

/-! # Choosing a gaze model

The strategy and the driver's weights decide which model runs. Weights that all equal zero count as
no weights.
-/

namespace DriverMonitor

/-- A gaze model with all it needs to run. -/
inductive GazeModel (α : Type) where
  | analytic (weights : GazeCoefficients)
  | pose (settings : PoseGaze α)

namespace GazeModel

def kind {α : Type} : GazeModel α → GazeModelKind
  | .analytic _ => .analytic
  | .pose _ => .pose

def estimate {α : Type} [Scalar α] : GazeModel α → Face α → Except Failure (GazeAngle α)
  | .analytic weights, f => AnalyticGaze.estimate weights f
  | .pose settings, f => settings.estimate f

/-- The pose model of a configuration. -/
def poseOf (config : Config) : PoseGaze Float where
  frameWidth := config.inference.frameWidth
  frameHeight := config.inference.frameHeight
  extension := config.gaze.extension
  maxResidual := config.gaze.maxAffineResidual

/-- The model that a strategy picks for a driver with the given weights. -/
def select (strategy : GazeStrategy) (weights : Option GazeCoefficients) (config : Config) :
    Except Failure (GazeModel Float) :=
  match strategy, weights.filter GazeCoefficients.isCalibrated with
  | .analytic, none => .error .calibrationMissing
  | .analytic, some c | .auto, some c => .ok (.analytic c)
  | .auto, none | .pose, _ => .ok (.pose (poseOf config))

end GazeModel

end DriverMonitor
