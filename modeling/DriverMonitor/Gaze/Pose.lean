import DriverMonitor.Gaze.Angle
import DriverMonitor.Linear.LeastSquares
import DriverMonitor.Pose.FaceModel
import DriverMonitor.Pose.HeadPose

/-! # The pose gaze model

Without calibration, gaze comes from a generic face model. An affine map takes image pixels into the
model; where it puts a pupil, relative to the centre of its eyeball, is the direction of the gaze.
The map is fitted to all landmarks of the model if they agree well enough, and else to those of the
side that the head turns towards the camera.

The target of the gaze lies `extension` times as far from the eyeball's centre as the pupil, and the
gaze is the vector from the pupil to the target.
-/

namespace DriverMonitor

/-- An affine map from the image plane into the face model. -/
structure PlaneMap (α : Type) where
  /-- The rows map `(u, v, 1)` to x, y and z of the model. -/
  transform : Matrix3 α
  /-- Root-mean-square residual in x and y over the fitted points, in millimetres. -/
  residual : α

variable {α : Type} [Scalar α]

namespace PlaneMap

/-- A pixel as a row of the fit. -/
def row (p : Point2 α) : List α := [p.x, p.y, 1.0]

/-- The least-squares map that takes pixels to model points; none if the pixels are collinear. -/
def fit? (solver : LeastSquares α) (image : List (Point2 α)) (model : List (Point3 α)) :
    Option (PlaneMap α) :=
  let design := image.map row
  if solver.rank 3 design < 3 then none
  else
    let solution (coordinate : Point3 α → α) : Option (Point3 α) :=
      match solver.solve 3 design (model.map coordinate) with
      | [u, v, w] => some ⟨u, v, w⟩
      | _ => none
    match solution (·.x), solution (·.y), solution (·.z) with
    | some x, some y, some z =>
      let error (p : Point2 α) (m : Point3 α) : α :=
        let pixel : Point3 α := ⟨p.x, p.y, 1.0⟩
        Scalar.square (x.dot pixel - m.x) + Scalar.square (y.dot pixel - m.y)
      let total := Scalar.sum (List.zipWith error image model)
      some ⟨⟨x, y, z⟩, Scalar.sqrt (total / Scalar.ofNat image.length)⟩
    | _, _, _ => none

def map (m : PlaneMap α) (pixel : Point2 α) : Point3 α :=
  m.transform.apply ⟨pixel.x, pixel.y, 1.0⟩

end PlaneMap

structure PoseGaze (α : Type) where
  frameWidth : UInt32
  frameHeight : UInt32
  /-- How far past the eyeball's centre the target is pushed. -/
  extension : α
  /-- Residual above which the map of the whole face is rejected. -/
  maxResidual : α

/-- From where to where a gaze goes, in the face model. -/
structure GazeRay (α : Type) where
  pupil : Point3 α
  target : Point3 α

namespace GazeRay

/-- The ray of one eye, whose target lies `extension` times past the eyeball's centre. -/
def ofEye (extension : α) (pupil centre : Point3 α) : GazeRay α where
  pupil := pupil
  target := centre + (pupil - centre) * extension

/-- The mean of two rays. -/
def mean (a b : GazeRay α) : GazeRay α where
  pupil := (a.pupil + b.pupil) * (0.5 : α)
  target := (a.target + b.target) * (0.5 : α)

def direction (r : GazeRay α) : Point3 α := r.target - r.pupil

/-- The angles of a ray. The model's x and y point to the driver's left and up, which are both
negative as angles. -/
def angle (r : GazeRay α) : GazeAngle α where
  yaw := -Scalar.toDegrees (Scalar.atan2 r.direction.x r.direction.z)
  pitch := -Scalar.toDegrees (Scalar.atan2 r.direction.y r.direction.z)

end GazeRay

namespace PoseGaze

def camera (g : PoseGaze α) : Camera α := .ofFrame g.frameWidth g.frameHeight

def toPixel (g : PoseGaze α) (p : Point3 α) : Point2 α :=
  ⟨p.x * Scalar.ofNat g.frameWidth.toNat, p.y * Scalar.ofNat g.frameHeight.toNat⟩

/-- The pixels of the model's landmarks. -/
def image (g : PoseGaze α) (f : Face α) : FaceModel.Points (Point2 α) :=
  (FaceModel.landmarks f).map g.toPixel

def headPose (g : PoseGaze α) (f : Face α) : Except Failure (HeadPose α) :=
  HeadPose.solve FaceModel.points.toList (g.image f).toList g.camera

def head (g : PoseGaze α) (f : Face α) : Except Failure (EulerAngles α) :=
  (g.headPose f).map HeadPose.euler

/-- The map of the whole face, if it is good enough. -/
def fullFit? (solver : LeastSquares α) (g : PoseGaze α) (f : Face α) : Option (PlaneMap α) :=
  (PlaneMap.fit? solver (g.image f).toList FaceModel.points.toList).filter fun fit =>
    Scalar.le fit.residual g.maxResidual

/-- The side of the face that is turned towards the camera. -/
def facingSide (head : EulerAngles α) : Side :=
  if Scalar.lt 0.0 head.yaw then .left else .right

def sideFit? (solver : LeastSquares α) (g : PoseGaze α) (f : Face α) (side : Side) :
    Option (PlaneMap α) :=
  PlaneMap.fit? solver ((g.image f).side side) (FaceModel.points.side side)

/-- The ray of one eye under a map. -/
def eyeRay (g : PoseGaze α) (f : Face α) (fit : PlaneMap α) (side : Side) : GazeRay α :=
  .ofEye g.extension (fit.map (g.toPixel (f.pupil side))) (FaceModel.eyeball side)

/-- The ray of the gaze, given the head's angles. -/
def ray (solver : LeastSquares α) (g : PoseGaze α) (f : Face α) (head : EulerAngles α) :
    Except Failure (GazeRay α) :=
  match g.fullFit? solver f with
  | some fit => .ok ((g.eyeRay f fit .left).mean (g.eyeRay f fit .right))
  | none =>
    match g.sideFit? solver f (facingSide head) with
    | some fit => .ok (g.eyeRay f fit (facingSide head))
    | none => .error (.degenerateGeometry .collinearLandmarks)

/-- The gaze of a face together with the head's angles, with a given solver. -/
def estimateWith (solver : LeastSquares α) (g : PoseGaze α) (f : Face α) :
    Except Failure (GazeAngle α × EulerAngles α) := do
  let head ← g.head f
  let ray ← g.ray solver f head
  if ray.angle.isFinite then return (ray.angle, head)
  else throw (.degenerateGeometry .nonFinitePoseAngle)

def estimateWithHead : PoseGaze α → Face α → Except Failure (GazeAngle α × EulerAngles α) :=
  estimateWith .orthogonal

def estimate (g : PoseGaze α) (f : Face α) : Except Failure (GazeAngle α) :=
  (g.estimateWithHead f).map Prod.fst

end PoseGaze

end DriverMonitor
