import DriverMonitor.Failure
import DriverMonitor.Linear.Elimination
import DriverMonitor.Pose.Camera
import DriverMonitor.Pose.Rotation

/-! # Head pose from point correspondences

A pose turns and moves model points into the camera's frame. `HeadPose.solve` looks for the pose
under which the model points are seen at given pixels: from two starts, one upright and one upside
down, it follows damped least-squares steps on the reprojection error and keeps the better end.

A step is taken only if it lowers the cost, so the cost that is kept always belongs to the
parameters that are kept. Which rotation formula and which linear solver are used is a parameter,
`PoseMethod`; what is known of the result does not depend on them.
-/

namespace DriverMonitor

/-- A rotation vector and a translation: the six parameters of a pose. -/
structure Placement (α : Type) where
  rotation : Point3 α
  translation : Point3 α
  deriving Repr, BEq, DecidableEq

/-- A model point and the pixel at which it is seen. -/
structure Correspondence (α : Type) where
  model : Point3 α
  pixel : Point2 α
  deriving Repr, BEq, DecidableEq

/-- How rotations become matrices and how linear systems are solved. -/
structure PoseMethod (α : Type) where
  rotationMatrix : Point3 α → Matrix3 α
  /-- Solves a square system of rows that end in their right-hand sides. -/
  solve? : (unknowns : Nat) → List (List α) → Option (List α)

variable {α : Type} [Scalar α]

def PoseMethod.standard : PoseMethod α := ⟨Matrix3.ofRotationVector, Linear.solve?⟩

namespace Placement

def count : Nat := 6

/-- Adds `h` to one parameter, counted from the rotation's first. -/
def nudge (p : Placement α) (k : Nat) (h : α) : Placement α :=
  match k with
  | 0 => { p with rotation.x := p.rotation.x + h }
  | 1 => { p with rotation.y := p.rotation.y + h }
  | 2 => { p with rotation.z := p.rotation.z + h }
  | 3 => { p with translation.x := p.translation.x + h }
  | 4 => { p with translation.y := p.translation.y + h }
  | _ => { p with translation.z := p.translation.z + h }

/-- Adds a step to the parameters. -/
def advance (p : Placement α) (step : List α) : Placement α :=
  (step.zipIdx).foldl (fun p (h, k) => p.nudge k h) p

def place (method : PoseMethod α) (p : Placement α) (model : Point3 α) : Point3 α :=
  (method.rotationMatrix p.rotation).apply model + p.translation

end Placement

structure PoseProblem (α : Type) where
  camera : Camera α
  correspondences : List (Correspondence α)

/-- A point of the search: parameters with their residuals and their cost. -/
structure PoseEstimate (α : Type) where
  placement : Placement α
  residuals : List α
  cost : α

namespace PoseProblem

def maxIterations : Nat := 200

/-- Step of the central differences. -/
def differenceStep : α := 1e-6

/-- Damping at the start, and the bounds at which it stays or the search ends. -/
def startDamping : α := 1e-3

@[inherit_doc startDamping]
def leastDamping : α := 1e-12

@[inherit_doc startDamping]
def mostDamping : α := 1e12

/-- Differences between seen and given pixels, x and y of each correspondence in turn; none if a
point falls behind the camera. -/
def residuals? (method : PoseMethod α) (problem : PoseProblem α) (p : Placement α) :
    Option (List α) := do
  let rotation := method.rotationMatrix p.rotation
  let pixels ← problem.correspondences.mapM fun c => do
    let seen ← problem.camera.project? (rotation.apply c.model + p.translation)
    return [seen.x - c.pixel.x, seen.y - c.pixel.y]
  return pixels.flatten

def costOf (residuals : List α) : α := Scalar.sum (residuals.map Scalar.square)

def evaluate? (method : PoseMethod α) (problem : PoseProblem α) (p : Placement α) :
    Option (PoseEstimate α) :=
  (problem.residuals? method p).map fun r => ⟨p, r, costOf r⟩

/-- The derivatives of the residuals by each parameter, one list per parameter. -/
def jacobian? (method : PoseMethod α) (problem : PoseProblem α) (p : Placement α) :
    Option (List (List α)) :=
  (List.range Placement.count).mapM fun k => do
    let forward ← problem.residuals? method (p.nudge k differenceStep)
    let backward ← problem.residuals? method (p.nudge k (-differenceStep))
    return List.zipWith (fun f b => (f - b) / (2.0 * differenceStep)) forward backward

/-- The damped normal equations, each row ending in its right-hand side. -/
def normalEquations (jacobian : List (List α)) (residuals : List α) (damping : α) :
    List (List α) :=
  let dot (xs ys : List α) : α := Scalar.sum (List.zipWith (· * ·) xs ys)
  jacobian.zipIdx.map fun (row, i) =>
    let products := jacobian.map (dot row)
    let diagonal := products.getD i 0.0
    products.set i (diagonal + damping * Scalar.max diagonal 1e-9) ++ [-(dot row residuals)]

/-- The search from a point under a damping, for a number of iterations; none if a difference step
takes a point behind the camera. -/
def search? (method : PoseMethod α) (problem : PoseProblem α) :
    Nat → PoseEstimate α → α → Option (PoseEstimate α)
  | 0, at_, _ => some at_
  | iterations + 1, at_, damping => do
    let jacobian ← problem.jacobian? method at_.placement
    match method.solve? Placement.count (normalEquations jacobian at_.residuals damping) with
    -- no step was taken, so the bound on the damping is not looked at
    | none => problem.search? method iterations at_ (damping * 10.0)
    | some step =>
      let candidate := problem.evaluate? method (at_.placement.advance step)
      match candidate.filter fun c => Scalar.lt c.cost at_.cost with
      | some better =>
        let gain := at_.cost - better.cost
        let settled := Scalar.le gain (1e-14 * Scalar.max better.cost 1.0) ||
          Scalar.lt (Scalar.sqrt (costOf step)) 1e-12
        if settled then some better
        else problem.search? method iterations better (Scalar.max (damping / 10.0) leastDamping)
      | none =>
        let damping := damping * 10.0
        if Scalar.lt mostDamping damping then some at_
        else problem.search? method iterations at_ damping

/-- Parameters that put the turned model roughly over the pixels, at a depth that fits their
spread. -/
def initialGuess (method : PoseMethod α) (problem : PoseProblem α) (rotation : Point3 α) :
    Placement α :=
  let count : α := Scalar.ofNat problem.correspondences.length
  let models := problem.correspondences.map (·.model)
  let pixels := problem.correspondences.map (·.pixel)
  let modelCentre := models.foldl (· + ·) Point3.zero / count
  let pixelCentre := pixels.foldl (· + ·) Point2.zero / count
  let modelSpread := Scalar.sum (models.map fun p => (p - modelCentre).xy.norm) / count
  let pixelSpread := Scalar.sum (pixels.map fun p => (p - pixelCentre).norm) / count
  let focal := problem.camera.focalLength
  let depth := focal * modelSpread / Scalar.max pixelSpread 1e-9
  let offset : Point3 α :=
    ⟨(pixelCentre.x - problem.camera.centre.x) * depth / focal,
      (pixelCentre.y - problem.camera.centre.y) * depth / focal, depth⟩
  ⟨rotation, offset - (method.rotationMatrix rotation).apply modelCentre⟩

/-- The end of the search from one start, if there is one. -/
def refine? (method : PoseMethod α) (problem : PoseProblem α) (start : Point3 α) :
    Option (PoseEstimate α) := do
  let initial ← problem.evaluate? method (problem.initialGuess method start)
  problem.search? method maxIterations initial startDamping

/-- Upright and upside down, since the model's y points up and the image's down. -/
def starts : List (Point3 α) := [Point3.zero, ⟨Scalar.pi, 0.0, 0.0⟩]

/-- The estimate of least cost, the earliest of equal ones. -/
def best? : List (PoseEstimate α) → Option (PoseEstimate α)
  | [] => none
  | e :: rest => some (rest.foldl (fun best e => if Scalar.lt e.cost best.cost then e else best) e)

end PoseProblem

/-- A head pose: the model's placement in the camera's frame, with its reprojection error. -/
structure HeadPose (α : Type) where
  placement : Placement α
  /-- Root-mean-square reprojection error in pixels. -/
  reprojectionError : α

namespace HeadPose

/-- Finds the pose of a model from the pixels at which its points are seen. -/
def solveWith (method : PoseMethod α) (model : List (Point3 α)) (image : List (Point2 α))
    (camera : Camera α) : Except Failure (HeadPose α) :=
  if model.length ≠ image.length then
    .error (.poseEstimation (.countMismatch model.length image.length))
  else if model.length < 4 then .error (.poseEstimation (.tooFewPoints model.length))
  else
    let problem : PoseProblem α := ⟨camera, List.zipWith .mk model image⟩
    let ends := PoseProblem.starts.filterMap (problem.refine? method)
    match PoseProblem.best? (ends.filter fun e => Scalar.isFinite e.cost) with
    | none => .error (.poseEstimation .noConvergence)
    | some e => .ok ⟨e.placement, Scalar.sqrt (e.cost / Scalar.ofNat model.length)⟩

def solve : List (Point3 α) → List (Point2 α) → Camera α → Except Failure (HeadPose α) :=
  solveWith .standard

def rotationMatrix (pose : HeadPose α) : Matrix3 α :=
  Matrix3.ofRotationVector pose.placement.rotation

def euler (pose : HeadPose α) : EulerAngles α := .ofMatrix pose.rotationMatrix

end HeadPose

end DriverMonitor
