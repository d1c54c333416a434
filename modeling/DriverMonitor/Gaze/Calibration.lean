import DriverMonitor.Gaze.Analytic
import DriverMonitor.Linear.LeastSquares

/-! # Calibration

Calibration fits the weights of one driver's gaze model to faces that were captured while the driver
looked at known targets. Each axis is its own least-squares problem over the same features that the
model later weighs, with one row for each sample.
-/

namespace DriverMonitor

open Number (Single)

/-- A face captured while the driver looked at a known target. -/
structure CalibrationSample (α : Type) where
  face : Face α
  target : GazeAngle α
  deriving Repr, BEq, DecidableEq

namespace Calibration

variable {α : Type} [Scalar α]

/-- Fits the weights of one axis to rows of features and their targets. -/
def fitAxis (solver : LeastSquares α) (rows : List (Terms α)) (targets : List α) :
    Except Failure (Terms Single) :=
  let design := rows.map Terms.toList
  if !(design.flatten ++ targets).all Scalar.isFinite then
    .error (.degenerateGeometry .nonFiniteFeatures)
  else if solver.rank Terms.count design < Terms.count then
    .error (.degenerateGeometry .dependentFeatures)
  else
    match Terms.ofList? (solver.solve Terms.count design targets) with
    | some weights => .ok (weights.map Scalar.toSingle)
    | none => .error (.degenerateGeometry .dependentFeatures)

def fitWith (solver : LeastSquares α) (samples : List (CalibrationSample α)) :
    Except Failure GazeCoefficients := do
  if samples.length < Terms.count then
    throw (.insufficientSamples samples.length Terms.count)
  let features := samples.map fun s => GazeFeatures.ofLandmarks (.ofFace s.face)
  let horizontal ← fitAxis solver (features.map (·.horizontal)) (samples.map (·.target.yaw))
  let vertical ← fitAxis solver (features.map (·.vertical)) (samples.map (·.target.pitch))
  return ⟨horizontal, vertical⟩

def fit : List (CalibrationSample α) → Except Failure GazeCoefficients :=
  fitWith .orthogonal

end Calibration

end DriverMonitor
