import DriverMonitor.Number.Single

/-! # Gaze coefficients

Weights of the calibrated gaze model for one driver: five for the horizontal axis, which produce
yaw, and five for the vertical axis, which produce pitch. They are stored as pairs, horizontal
first. Weights that all equal zero mean that no calibration was ever stored.
-/

namespace DriverMonitor

open Number (Single)

/-- One value for each term of the calibrated gaze model. -/
structure Terms (α : Type) where
  bias : α
  rotation : α
  pupil : α
  scale : α
  centre : α
  deriving Repr, BEq, DecidableEq

namespace Terms

variable {α β γ : Type}

def count : Nat := 5

def toList (t : Terms α) : List α := [t.bias, t.rotation, t.pupil, t.scale, t.centre]

def ofList? : List α → Option (Terms α)
  | [b, r, p, s, c] => some ⟨b, r, p, s, c⟩
  | _ => none

def map (f : α → β) (t : Terms α) : Terms β :=
  ⟨f t.bias, f t.rotation, f t.pupil, f t.scale, f t.centre⟩

def zipWith (f : α → β → γ) (s : Terms α) (t : Terms β) : Terms γ :=
  ⟨f s.bias t.bias, f s.rotation t.rotation, f s.pupil t.pupil, f s.scale t.scale,
    f s.centre t.centre⟩

def replicate (a : α) : Terms α := ⟨a, a, a, a, a⟩

@[simp] theorem length_toList (t : Terms α) : t.toList.length = count := rfl

@[simp] theorem ofList?_toList (t : Terms α) : ofList? t.toList = some t := rfl

end Terms

/-- Weights of the calibrated gaze model. -/
structure GazeCoefficients where
  horizontal : Terms Single
  vertical : Terms Single
  deriving Repr, DecidableEq

namespace GazeCoefficients

def zero : GazeCoefficients := ⟨.replicate .zero, .replicate .zero⟩

/-- The weights of each term, horizontal first. -/
def pairs (c : GazeCoefficients) : Terms (Single × Single) := c.horizontal.zipWith .mk c.vertical

def ofPairs (pairs : Terms (Single × Single)) : GazeCoefficients :=
  ⟨pairs.map (·.1), pairs.map (·.2)⟩

/-- Whether some weight compares unequal to zero. -/
def isCalibrated (c : GazeCoefficients) : Bool :=
  (c.horizontal.toList ++ c.vertical.toList).any (·.isNonzero)

@[simp] theorem ofPairs_pairs (c : GazeCoefficients) : ofPairs c.pairs = c := rfl

end GazeCoefficients

end DriverMonitor
