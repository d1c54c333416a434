import DriverMonitor.Geometry.Point

/-! # The pinhole camera

The focal length is taken to be the width of the frame and the principal point its centre. Lenses do
not distort.
-/

namespace DriverMonitor

structure Camera (α : Type) where
  focalLength : α
  centre : Point2 α
  deriving Repr, BEq, DecidableEq

namespace Camera

variable {α : Type} [Scalar α]

/-- Points at this depth or nearer count as behind the camera. -/
def leastDepth : α := 1e-6

/-- The camera that takes frames of a given size. -/
def ofFrame (width height : UInt32) : Camera α where
  focalLength := Scalar.ofNat width.toNat
  centre := ⟨Scalar.ofNat width.toNat / 2.0, Scalar.ofNat height.toNat / 2.0⟩

/-- The pixel at which a point is seen, none if it is behind the camera. -/
def project? (c : Camera α) (p : Point3 α) : Option (Point2 α) :=
  if Scalar.le p.z leastDepth then none
  else some ⟨c.focalLength * p.x / p.z + c.centre.x, c.focalLength * p.y / p.z + c.centre.y⟩

end Camera

end DriverMonitor
