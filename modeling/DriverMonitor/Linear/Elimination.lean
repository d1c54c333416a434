import DriverMonitor.Geometry.Scalar

/-! # Gaussian elimination

Square linear systems are solved by elimination with partial pivoting. A system is a list of rows,
each with its right-hand side as last entry. The elimination takes one column off all rows in each
step, so it recurses on the number of unknowns.
-/

namespace DriverMonitor.Linear

variable {α : Type} [Scalar α]

/-- The rows with the one of largest first entry in front, which changes places with the row that
stood there. Of equally large ones the earliest is taken. -/
def pivotFirst : List (List α) → List (List α)
  | [] => []
  | first :: rest =>
    let size (row : List α) : α := Scalar.abs (row.headD 0.0)
    let (pivot, _) := rest.zipIdx.foldl
      (fun (best, largest) (row, i) =>
        if Scalar.lt largest (size row) then (some (row, i), size row) else (best, largest))
      ((none : Option (List α × Nat)), size first)
    match pivot with
    | none => first :: rest
    | some (row, i) => row :: rest.set i first

/-- A row without its first entry, after the multiple of the pivot row that clears that entry. -/
def clearFirst (inverse : α) (pivotTail : List α) (row : List α) : List α :=
  let factor := row.headD 0.0 * inverse
  List.zipWith (fun r p => r + -p * factor) row.tail pivotTail

/-- Solves a system of `unknowns` rows; none if no row can serve as pivot. -/
def solve? : (unknowns : Nat) → List (List α) → Option (List α)
  | 0, _ => some []
  | n + 1, rows =>
    match pivotFirst rows with
    | (pivot :: pivotTail) :: rest =>
      -- zero of either sign; what is not a number passes and spoils the solution instead
      if Scalar.le pivot 0.0 && Scalar.le 0.0 pivot then none
      else
        (solve? n (rest.map (clearFirst (1.0 / pivot) pivotTail))).map fun solution =>
          let constant := pivotTail.getLastD 0.0
          let known := (List.zip pivotTail solution).foldr (fun (c, x) acc => acc + -x * c) constant
          (known / pivot) :: solution
    | _ => none

end DriverMonitor.Linear
