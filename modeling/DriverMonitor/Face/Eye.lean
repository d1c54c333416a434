import DriverMonitor.Face.Landmark

/-! # Eye openness

Each eye contributes two lid gaps, from the upper to the lower lid once near each corner, and one
width from corner to corner, all in the image plane. Openness is the gaps over the width: lower
means more closed, collapsed lids read zero, and so does an eye without width.
-/

namespace DriverMonitor

structure EyeOpenness (α : Type) where
  left : α
  right : α
  /-- All four lid gaps over both widths. -/
  combined : α
  deriving Repr, BEq, DecidableEq

/-- What one eye contributes. -/
structure EyeMeasure (α : Type) where
  lidGaps : α
  width : α

variable {α : Type} [Scalar α]

/-- Lid gaps over widths, zero without width. -/
def opennessRatio (lidGaps widths : α) : α :=
  if Scalar.lt 0.0 widths then lidGaps / widths else 0.0

namespace EyeMeasure

def ofEyelid (e : Eyelid α) : EyeMeasure α where
  lidGaps := e.upperMedial.planarDistance e.lowerMedial + e.upperLateral.planarDistance e.lowerLateral
  width := e.medialCorner.planarDistance e.lateralCorner

def openness (m : EyeMeasure α) : α := opennessRatio m.lidGaps m.width

end EyeMeasure

namespace EyeOpenness

def ofFace (f : Face α) : EyeOpenness α :=
  let left := EyeMeasure.ofEyelid f.eyelidLeft
  let right := EyeMeasure.ofEyelid f.eyelidRight
  { left := left.openness
    right := right.openness
    combined := opennessRatio (left.lidGaps + right.lidGaps) (left.width + right.width) }

def isClosed (eyes : EyeOpenness α) (threshold : α) : Bool := Scalar.lt eyes.combined threshold

end EyeOpenness

end DriverMonitor
