import DriverMonitor.Failure
import DriverMonitor.Gaze.Coefficients

/-! # Driver profiles

A profile is what is remembered of an enrolled driver: a name, face embeddings and the weights of
the calibrated gaze model. An embedding is stored with a shape of its own, so that tables of several
rows can be kept next to the columns that enrollment stores.
-/

namespace DriverMonitor

open Number (Single)

/-- The features of one face image. -/
abbrev Embedding := List Single

/-- A stored embedding: values in row-major order and their shape. -/
structure EmbeddingVector where
  rows : UInt64
  cols : UInt64
  values : Embedding
  deriving DecidableEq, Repr

namespace EmbeddingVector

/-- The values in a given shape. The number of places is counted in 64-bit words. -/
def ofShape (rows cols : UInt64) (values : Embedding) : Except Failure EmbeddingVector :=
  let places := (rows * cols).toNat
  if places = values.length then .ok ⟨rows, cols, values⟩
  else .error (.dimensionMismatch places values.length)

/-- The values as one column, the shape that enrollment stores. -/
def column (values : Embedding) : EmbeddingVector := ⟨.ofNat values.length, 1, values⟩

def length (v : EmbeddingVector) : Nat := v.values.length

end EmbeddingVector

/-- What is remembered of an enrolled driver. -/
structure Profile where
  name : String
  embeddings : List EmbeddingVector
  weights : GazeCoefficients := .zero
  deriving DecidableEq, Repr

namespace Profile

/-- The weights, unless they all equal zero. -/
def calibration? (p : Profile) : Option GazeCoefficients :=
  some p.weights |>.filter GazeCoefficients.isCalibrated

end Profile

end DriverMonitor
