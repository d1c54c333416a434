import DriverMonitor.Geometry.Scalar

/-! # Linear least squares

A least-squares problem asks for the weights that bring a list of rows as close as possible to a
list of targets. `LeastSquares` is what its users need to know of a solver: how many columns of the
rows are independent, and the best weights when all are.

`LeastSquares.orthogonal` is the solver that the program runs. It rotates pairs of columns until all
are orthogonal to each other, carrying along the same rotations of the unit vectors. The lengths of
the orthogonal columns are the singular values, and in the rotated basis each weight is a quotient
of two inner products. Columns are first divided by the largest entry, so that no square overflows,
and the targets are only weighed with columns of length one.
-/

namespace DriverMonitor

/-- A solver of linear least-squares problems. Rows and results have one entry per column. -/
structure LeastSquares (α : Type) where
  /-- Number of independent columns. -/
  rank : (columns : Nat) → (rows : List (List α)) → Nat
  /-- The weights with the least sum of squared differences between weighted rows and targets. -/
  solve : (columns : Nat) → (rows : List (List α)) → (targets : List α) → List α

namespace LeastSquares

variable {α : Type} [Scalar α]

/-- Singular values below this part of the largest one count as zero. -/
def rankTolerance : α := 1e-9

/-- Inner products below this part of the lengths count as zero. -/
def orthogonalTolerance : α := 1e-15

def dot (xs ys : List α) : α := Scalar.sum (List.zipWith (· * ·) xs ys)

/-- A linear combination of the columns: its entries and its coordinates. -/
structure Column (α : Type) where
  entries : List α
  coordinates : List α

namespace Column

/-- `s · a + t · b`. -/
def combine (s : α) (a : Column α) (t : α) (b : Column α) : Column α :=
  let mix := List.zipWith fun x y => s * x + t * y
  ⟨mix a.entries b.entries, mix a.coordinates b.coordinates⟩

def length (c : Column α) : α := Scalar.sqrt (dot c.entries c.entries)

/-- Rotates two columns into orthogonal ones, and says whether they were not. -/
def rotate (a b : Column α) : Column α × Column α × Bool :=
  let aa := dot a.entries a.entries
  let bb := dot b.entries b.entries
  let ab := dot a.entries b.entries
  if Scalar.le (Scalar.abs ab) (orthogonalTolerance * Scalar.sqrt aa * Scalar.sqrt bb) then
    (a, b, false)
  else
    -- the tangent of the smaller of the two angles that make the columns orthogonal
    let z := (bb - aa) / (2.0 * ab)
    let root := Scalar.abs z + Scalar.sqrt (1.0 + Scalar.square z)
    let t := if Scalar.lt z 0.0 then -(1.0 : α) / root else 1.0 / root
    let c := 1.0 / Scalar.sqrt (1.0 + Scalar.square t)
    let s := c * t
    (combine c a (-s) b, combine s a c b, true)

end Column

/-- Rotates one column against each of the others in turn. -/
def rotateThrough : Column α → List (Column α) → Column α × List (Column α) × Bool
  | a, [] => (a, [], false)
  | a, b :: rest =>
    let (a, b, turned) := a.rotate b
    let (a, rest, more) := rotateThrough a rest
    (a, b :: rest, turned || more)

theorem length_rotateThrough (a : Column α) (cs : List (Column α)) :
    (rotateThrough a cs).2.1.length = cs.length := by
  induction cs generalizing a with
  | nil => rfl
  | cons b rest ih => simp [rotateThrough, ih]

/-- Rotates each pair of columns once, and says whether any was turned. -/
def sweep : List (Column α) → List (Column α) × Bool
  | [] => ([], false)
  | a :: rest =>
    let r := rotateThrough a rest
    let (done, more) := sweep r.2.1
    (r.1 :: done, r.2.2 || more)
termination_by cs => cs.length
decreasing_by simp [length_rotateThrough]

/-- Sweeps until no pair is turned, at most a given number of times. -/
def orthogonalize : Nat → List (Column α) → List (Column α)
  | 0, cs => cs
  | sweeps + 1, cs =>
    match sweep cs with
    | (cs, true) => orthogonalize sweeps cs
    | (cs, false) => cs

/-- The largest absolute value among the entries of all rows. -/
def largestEntry (rows : List (List α)) : α :=
  rows.flatten.foldl (fun m x => Scalar.max m (Scalar.abs x)) 0.0

/-- The columns of rows divided by `scale`, each with its own unit vector. -/
def columnsOf (scale : α) (columns : Nat) (rows : List (List α)) : List (Column α) :=
  (List.range columns).map fun j =>
    { entries := rows.map fun row => row.getD j 0.0 / scale
      coordinates := (List.range columns).map fun i => if i = j then 1.0 else 0.0 }

/-- Orthogonal combinations of the columns of some rows, the longest first, and the scale they are
divided by. -/
def decompose (columns : Nat) (rows : List (List α)) : α × List (Column α) :=
  let largest := largestEntry rows
  -- rows of zeros have nothing to be scaled by
  let scale := if Scalar.lt 0.0 largest then largest else 1.0
  let basis := orthogonalize 60 (columnsOf scale columns rows)
  (scale, basis.mergeSort fun a b => Scalar.le b.length a.length)

/-- The solver by orthogonal columns. -/
def orthogonal : LeastSquares α where
  rank columns rows :=
    let (scale, basis) := decompose columns rows
    let lengths := basis.map (·.length * scale)
    let largest := lengths.foldl Scalar.max 0.0
    lengths.countP (Scalar.lt (largest * rankTolerance))
  solve columns rows targets :=
    let (scale, basis) := decompose columns rows
    let zero := List.replicate columns (0.0 : α)
    basis.foldl (fun weights c =>
      let length := c.length
      let w := dot (c.entries.map (· / length)) targets / (length * scale)
      List.zipWith (fun acc x => acc + w * x) weights c.coordinates) zero

end LeastSquares

end DriverMonitor
