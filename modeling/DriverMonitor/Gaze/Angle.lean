import DriverMonitor.Geometry.Scalar

/-! # Gaze directions

A gaze is a pair of angles in degrees: yaw is negative to the driver's left, pitch is negative up.
Two models produce it, and a strategy says which of them a deployment runs.
-/

namespace DriverMonitor

/-- A gaze direction in degrees. -/
structure GazeAngle (α : Type) where
  yaw : α
  pitch : α
  deriving Repr, BEq, DecidableEq

def GazeAngle.isFinite {α : Type} [Scalar α] (g : GazeAngle α) : Bool :=
  Scalar.isFinite g.yaw && Scalar.isFinite g.pitch

inductive GazeModelKind where
  | analytic
  | pose
  deriving DecidableEq, Repr

def GazeModelKind.name : GazeModelKind → String
  | .analytic => "analytic"
  | .pose => "pose"

/-- Which model a deployment runs. -/
inductive GazeStrategy where
  /-- The calibrated model when the driver has weights, the pose model otherwise. -/
  | auto
  | analytic
  | pose
  deriving DecidableEq, Repr

namespace GazeStrategy

def all : List GazeStrategy := [auto, analytic, pose]

def name : GazeStrategy → String
  | auto => "auto"
  | analytic => "analytic"
  | pose => "pose"

def ofName? (text : String) : Option GazeStrategy := all.find? (·.name == text)

end GazeStrategy

end DriverMonitor
