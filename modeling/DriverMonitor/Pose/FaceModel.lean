import DriverMonitor.Face.Landmark

/-! # The generic face model

Six landmarks and both eyeball centres of an average face, in millimetres. The face looks down +z
with y up and the driver's left towards +x; the nose tip is the origin.
-/

namespace DriverMonitor.FaceModel

variable {α : Type}

/-- One value for each landmark of the model. -/
structure Points (β : Type) where
  noseTip : β
  chin : β
  lateralLeft : β
  lateralRight : β
  mouthLeft : β
  mouthRight : β
  deriving Repr, BEq, DecidableEq

namespace Points

variable {β : Type}

def toList (p : Points β) : List β :=
  [p.noseTip, p.chin, p.lateralLeft, p.lateralRight, p.mouthLeft, p.mouthRight]

/-- The points that are visible from one side of the face. -/
def side (p : Points β) : Side → List β
  | .left => [p.noseTip, p.chin, p.lateralLeft, p.mouthLeft]
  | .right => [p.noseTip, p.chin, p.lateralRight, p.mouthRight]

def map {γ : Type} (f : β → γ) (p : Points β) : Points γ :=
  ⟨f p.noseTip, f p.chin, f p.lateralLeft, f p.lateralRight, f p.mouthLeft, f p.mouthRight⟩

end Points

/-- Where a face has the landmarks of the model. -/
def landmarks (f : Face α) : Points (Point3 α) where
  noseTip := f.noseTip
  chin := f.chin
  lateralLeft := f.lateralCorner .left
  lateralRight := f.lateralCorner .right
  mouthLeft := f.mouthLeft
  mouthRight := f.mouthRight

variable [Scalar α]

def points : Points (Point3 α) where
  noseTip := ⟨0.0, 0.0, 0.0⟩
  chin := ⟨0.0, -63.6, -12.5⟩
  lateralLeft := ⟨43.3, 32.7, -26.0⟩
  lateralRight := ⟨-43.3, 32.7, -26.0⟩
  mouthLeft := ⟨28.9, -28.9, -24.1⟩
  mouthRight := ⟨-28.9, -28.9, -24.1⟩

def eyeball : Side → Point3 α
  | .left => ⟨29.05, 32.7, -39.5⟩
  | .right => ⟨-29.05, 32.7, -39.5⟩

end DriverMonitor.FaceModel
