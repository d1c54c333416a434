import DriverMonitor.Geometry.Point

/-! # Rotations

A rotation is given by a vector along its axis, as long as its angle in radians. Its matrix follows
from the sine and cosine of the angle, and Euler angles are read off the matrix. Near a yaw of a
right angle the roll cannot be told from the pitch and is taken to be zero.
-/

namespace DriverMonitor

structure Matrix3 (α : Type) where
  first : Point3 α
  second : Point3 α
  third : Point3 α
  deriving Repr, BEq, DecidableEq

variable {α : Type} [Scalar α]

def Point3.dot (p q : Point3 α) : α := p.x * q.x + p.y * q.y + p.z * q.z

namespace Matrix3

def identity : Matrix3 α := ⟨⟨1.0, 0.0, 0.0⟩, ⟨0.0, 1.0, 0.0⟩, ⟨0.0, 0.0, 1.0⟩⟩

def apply (m : Matrix3 α) (p : Point3 α) : Point3 α :=
  ⟨m.first.dot p, m.second.dot p, m.third.dot p⟩

/-- The rotation about a unit axis by an angle. -/
def ofAxisAngle (axis : Point3 α) (angle : α) : Matrix3 α :=
  let sin := Scalar.sin angle
  let cos := Scalar.cos angle
  let rest := 1.0 - cos
  let diagonal (u : α) := u * u + (1.0 - u * u) * cos
  let xy := axis.x * axis.y * rest
  let xz := axis.x * axis.z * rest
  let yz := axis.y * axis.z * rest
  { first := ⟨diagonal axis.x, xy - axis.z * sin, xz + axis.y * sin⟩
    second := ⟨xy + axis.z * sin, diagonal axis.y, yz - axis.x * sin⟩
    third := ⟨xz - axis.y * sin, yz + axis.x * sin, diagonal axis.z⟩ }

def ofRotationVector (v : Point3 α) : Matrix3 α :=
  let angle := v.norm
  if Scalar.le angle 0.0 && Scalar.le 0.0 angle then identity else ofAxisAngle (v / angle) angle

end Matrix3

/-- Angles in degrees: pitch about x, yaw about y, roll about z. -/
structure EulerAngles (α : Type) where
  pitch : α
  yaw : α
  roll : α
  deriving Repr, BEq, DecidableEq

namespace EulerAngles

/-- Below this length of the projected forward axis, roll is not observable. -/
def gimbalTolerance : α := 1e-6

def ofMatrix (m : Matrix3 α) : EulerAngles α :=
  let level := Scalar.sqrt (Scalar.square m.first.x + Scalar.square m.second.x)
  let yaw := Scalar.toDegrees (Scalar.atan2 (-m.third.x) level)
  if Scalar.le gimbalTolerance level then
    { pitch := Scalar.toDegrees (Scalar.atan2 m.third.y m.third.z)
      yaw
      roll := Scalar.toDegrees (Scalar.atan2 m.second.x m.first.x) }
  else
    { pitch := Scalar.toDegrees (Scalar.atan2 (-m.second.z) m.second.y)
      yaw
      roll := Scalar.toDegrees 0.0 }

end EulerAngles

end DriverMonitor
