import DriverMonitor.Failure
import DriverMonitor.Geometry.Point

/-! # Facial landmarks

A face is eighteen named points. `x` and `y` are image coordinates from 0 to 1, `z` is a relative
depth, and left and right are the driver's own sides. Each eye carries six points of its eyelid in
a fixed winding: medial corner, upper lid (medial, lateral), lateral corner, lower lid (lateral,
medial).

A face mesh is a longer list of points from which the eighteen are picked by index.
-/

namespace DriverMonitor

/-- One of the driver's own sides. -/
inductive Side where
  | left
  | right
  deriving DecidableEq, Repr

/-- The points of one eyelid, in winding order. -/
structure Eyelid (α : Type) where
  medialCorner : Point3 α
  upperMedial : Point3 α
  upperLateral : Point3 α
  lateralCorner : Point3 α
  lowerLateral : Point3 α
  lowerMedial : Point3 α
  deriving Repr, BEq, DecidableEq

def Eyelid.points {α : Type} (e : Eyelid α) : List (Point3 α) :=
  [e.medialCorner, e.upperMedial, e.upperLateral, e.lateralCorner, e.lowerLateral, e.lowerMedial]

/-- The eighteen landmarks of a face. -/
structure Face (α : Type) where
  noseTip : Point3 α
  chin : Point3 α
  mouthLeft : Point3 α
  mouthRight : Point3 α
  eyelidLeft : Eyelid α
  eyelidRight : Eyelid α
  pupilLeft : Point3 α
  pupilRight : Point3 α
  deriving Repr, BEq, DecidableEq

namespace Face

variable {α : Type}

def eyelid (f : Face α) : Side → Eyelid α
  | .left => f.eyelidLeft
  | .right => f.eyelidRight

def pupil (f : Face α) : Side → Point3 α
  | .left => f.pupilLeft
  | .right => f.pupilRight

def mouthCorner (f : Face α) : Side → Point3 α
  | .left => f.mouthLeft
  | .right => f.mouthRight

def medialCorner (f : Face α) (side : Side) : Point3 α := (f.eyelid side).medialCorner

def lateralCorner (f : Face α) (side : Side) : Point3 α := (f.eyelid side).lateralCorner

/-- The landmarks in the order in which faces are written. -/
def points (f : Face α) : List (Point3 α) :=
  [f.noseTip, f.chin, f.mouthLeft, f.mouthRight] ++ f.eyelidLeft.points ++ f.eyelidRight.points ++
    [f.pupilLeft, f.pupilRight]

/-- The face with the given landmarks, in the order of `points`. -/
def ofPoints? : List (Point3 α) → Option (Face α)
  | [nose, chin, ml, mr, l0, l1, l2, l3, l4, l5, r0, r1, r2, r3, r4, r5, pl, pr] =>
    some ⟨nose, chin, ml, mr, ⟨l0, l1, l2, l3, l4, l5⟩, ⟨r0, r1, r2, r3, r4, r5⟩, pl, pr⟩
  | _ => none

def isFinite [Scalar α] (f : Face α) : Bool := f.points.all Point3.isFinite

end Face

/-! ## Face meshes -/

namespace Mesh

variable {α : Type}

/-- Mesh index of each landmark, in the order of `Face.points`. -/
def landmarkIndices : List Nat :=
  [4, 152, 287, 57, 362, 385, 387, 263, 373, 380, 133, 158, 160, 33, 144, 153, 473, 468]

/-- The points of a mesh at some indices, if it is long enough to be one. -/
def pick (mesh : Array (Point3 α)) (indices : List Nat) : Except Failure (List (Point3 α)) :=
  let fault := Failure.extraction (.shortMesh mesh.size)
  if mesh.size < meshSize then .error fault
  -- indices lie below `meshSize`, so every point is there
  else (indices.mapM (mesh[·]?)).elim (.error fault) .ok

def face (mesh : Array (Point3 α)) : Except Failure (Face α) := do
  let points ← pick mesh landmarkIndices
  (Face.ofPoints? points).elim (.error (.extraction (.shortMesh mesh.size))) .ok

end Mesh

end DriverMonitor
