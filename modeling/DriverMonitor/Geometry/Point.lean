import DriverMonitor.Geometry.Scalar

/-! # Points

`Point2` lies in the image, `Point3` also has a depth. Arithmetic is by component.
-/

namespace DriverMonitor

structure Point2 (α : Type) where
  x : α
  y : α
  deriving Repr, BEq, DecidableEq

structure Point3 (α : Type) where
  x : α
  y : α
  z : α
  deriving Repr, BEq, DecidableEq

variable {α : Type} [Scalar α]

namespace Point2

instance : Add (Point2 α) := ⟨fun p q => ⟨p.x + q.x, p.y + q.y⟩⟩
instance : Sub (Point2 α) := ⟨fun p q => ⟨p.x - q.x, p.y - q.y⟩⟩
instance : HMul (Point2 α) α (Point2 α) := ⟨fun p s => ⟨p.x * s, p.y * s⟩⟩
instance : HDiv (Point2 α) α (Point2 α) := ⟨fun p s => ⟨p.x / s, p.y / s⟩⟩

theorem add_def (p q : Point2 α) : p + q = ⟨p.x + q.x, p.y + q.y⟩ := rfl

theorem sub_def (p q : Point2 α) : p - q = ⟨p.x - q.x, p.y - q.y⟩ := rfl

theorem div_def (p : Point2 α) (s : α) : p / s = ⟨p.x / s, p.y / s⟩ := rfl

def zero : Point2 α := ⟨0.0, 0.0⟩

def norm (p : Point2 α) : α := Scalar.sqrt (Scalar.square p.x + Scalar.square p.y)

def distance (p q : Point2 α) : α := (p - q).norm

def midpoint (p q : Point2 α) : Point2 α := (p + q) / (2.0 : α)

def isFinite (p : Point2 α) : Bool := Scalar.isFinite p.x && Scalar.isFinite p.y

end Point2

namespace Point3

instance : Add (Point3 α) := ⟨fun p q => ⟨p.x + q.x, p.y + q.y, p.z + q.z⟩⟩
instance : Sub (Point3 α) := ⟨fun p q => ⟨p.x - q.x, p.y - q.y, p.z - q.z⟩⟩
instance : HMul (Point3 α) α (Point3 α) := ⟨fun p s => ⟨p.x * s, p.y * s, p.z * s⟩⟩
instance : HDiv (Point3 α) α (Point3 α) := ⟨fun p s => ⟨p.x / s, p.y / s, p.z / s⟩⟩

theorem add_def (p q : Point3 α) : p + q = ⟨p.x + q.x, p.y + q.y, p.z + q.z⟩ := rfl

theorem sub_def (p q : Point3 α) : p - q = ⟨p.x - q.x, p.y - q.y, p.z - q.z⟩ := rfl

theorem mul_def (p : Point3 α) (s : α) : p * s = ⟨p.x * s, p.y * s, p.z * s⟩ := rfl

theorem div_def (p : Point3 α) (s : α) : p / s = ⟨p.x / s, p.y / s, p.z / s⟩ := rfl

def zero : Point3 α := ⟨0.0, 0.0, 0.0⟩

/-- The image position, without depth. -/
def xy (p : Point3 α) : Point2 α := ⟨p.x, p.y⟩

def norm (p : Point3 α) : α :=
  Scalar.sqrt (Scalar.square p.x + Scalar.square p.y + Scalar.square p.z)

def distance (p q : Point3 α) : α := (p - q).norm

/-- Distance in the image plane, ignoring depth. -/
def planarDistance (p q : Point3 α) : α := p.xy.distance q.xy

def midpoint (p q : Point3 α) : Point3 α := (p + q) / (2.0 : α)

def isFinite (p : Point3 α) : Bool :=
  Scalar.isFinite p.x && Scalar.isFinite p.y && Scalar.isFinite p.z

end Point3

end DriverMonitor
