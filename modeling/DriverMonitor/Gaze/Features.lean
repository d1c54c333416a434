import DriverMonitor.Face.Landmark
import DriverMonitor.Gaze.Coefficients

/-! # Features of the calibrated gaze model

The calibrated model reads a few points around the eyes, `GazeLandmarks`, and reduces them to five
features for each axis: a constant, the head's rotation, the pupils' offset from the medial corners,
the face's size and its place in the image. `GazeFeatures.ofLandmarks` is the only definition of the
features, so that fitting and estimating cannot differ in them.
-/

namespace DriverMonitor

variable {α : Type}

/-- Four points around one iris. -/
structure Limbus (α : Type) where
  first : Point3 α
  second : Point3 α
  third : Point3 α
  fourth : Point3 α
  deriving Repr, BEq, DecidableEq

namespace Limbus

def points (l : Limbus α) : List (Point3 α) := [l.first, l.second, l.third, l.fourth]

def replicate (p : Point3 α) : Limbus α := ⟨p, p, p, p⟩

/-- The mean image position. -/
def centre [Scalar α] (l : Limbus α) : Point2 α :=
  (l.points.map Point3.xy).foldl (· + ·) Point2.zero / (4.0 : α)

end Limbus

/-- What the calibrated model reads of a face. -/
structure GazeLandmarks (α : Type) where
  eyesMidpoint : Point3 α
  noseBase : Point3 α
  medialLeft : Point3 α
  medialRight : Point3 α
  limbusLeft : Limbus α
  limbusRight : Limbus α
  deriving Repr, BEq, DecidableEq

namespace GazeLandmarks

/-- Approximates the points from the eighteen landmarks: the eyes' midpoint lies between the medial
corners, the nose tip stands for the nose base and each pupil for the points around its iris. -/
def ofFace [Scalar α] (f : Face α) : GazeLandmarks α where
  eyesMidpoint := (f.medialCorner .left).midpoint (f.medialCorner .right)
  noseBase := f.noseTip
  medialLeft := f.medialCorner .left
  medialRight := f.medialCorner .right
  limbusLeft := .replicate f.pupilLeft
  limbusRight := .replicate f.pupilRight

/-- Mesh index of each point, in the order of the fields. -/
def meshIndices : List Nat := [168, 2, 362, 133, 474, 475, 476, 477, 469, 470, 471, 472]

/-- Reads the points from a face mesh. -/
def ofMesh (mesh : Array (Point3 α)) : Except Failure (GazeLandmarks α) := do
  match ← Mesh.pick mesh meshIndices with
  | [eyes, nose, ml, mr, l0, l1, l2, l3, r0, r1, r2, r3] =>
    return ⟨eyes, nose, ml, mr, ⟨l0, l1, l2, l3⟩, ⟨r0, r1, r2, r3⟩⟩
  | _ => throw (.extraction (.shortMesh mesh.size))

variable [Scalar α]

/-- Rotation of the head in radians: `x` about the vertical axis, `y` about the horizontal one. -/
def headRotation (g : GazeLandmarks α) : Point2 α where
  x := Scalar.atan ((g.medialLeft.z - g.medialRight.z) / (g.medialLeft.x - g.medialRight.x))
  y := Scalar.atan ((g.eyesMidpoint.z - g.noseBase.z) / (g.eyesMidpoint.y - g.noseBase.y))

/-- Size of the face: `x` from the eyes' midpoint to the nose base, `y` between the medial
corners. -/
def faceScale (g : GazeLandmarks α) : Point2 α where
  x := g.eyesMidpoint.distance g.noseBase
  y := g.medialLeft.distance g.medialRight

/-- Offset of an iris from its medial corner, in units of the face's size. -/
def irisOffset (scale : Point2 α) (medial : Point3 α) (limbus : Limbus α) : Point2 α :=
  let offset := medial.xy - limbus.centre
  ⟨offset.x / scale.x, offset.y / scale.y⟩

/-- Mean offset of both irises. -/
def pupilOffset (g : GazeLandmarks α) : Point2 α :=
  (irisOffset g.faceScale g.medialLeft g.limbusLeft).midpoint
    (irisOffset g.faceScale g.medialRight g.limbusRight)

end GazeLandmarks

/-- The regressors of each axis. -/
structure GazeFeatures (α : Type) where
  horizontal : Terms α
  vertical : Terms α
  deriving Repr, BEq, DecidableEq

def GazeFeatures.ofLandmarks [Scalar α] (g : GazeLandmarks α) : GazeFeatures α where
  horizontal := ⟨1.0, g.headRotation.x, g.pupilOffset.x, g.faceScale.x, g.eyesMidpoint.x⟩
  vertical := ⟨1.0, g.headRotation.y, g.pupilOffset.y, g.faceScale.y, g.eyesMidpoint.y⟩

end DriverMonitor
