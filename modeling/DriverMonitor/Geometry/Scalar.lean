import DriverMonitor.Number.Single

/-! # Scalars

Everything between a landmark and an angle is computed over a `Scalar`: an arithmetic with
comparisons, a square root and the circular functions. The program runs over `Float`; statements in
exact arithmetic are about the same definitions over an exact field.

A `Scalar` promises no law. Comparisons are `Bool`-valued, because `Float` has values that are in no
order, and whether a value is a number at all is asked with `isNaN` and `isFinite`.
-/

namespace DriverMonitor

/-- An arithmetic that landmark geometry can be computed over. -/
class Scalar (α : Type) extends Add α, Sub α, Mul α, Div α, Neg α, OfScientific α where
  ofNat : Nat → α
  /-- The value of a stored single-precision number. -/
  ofSingle : Number.Single → α
  /-- The single-precision number nearest to a value. -/
  toSingle : α → Number.Single
  pi : α
  sqrt : α → α
  sin : α → α
  cos : α → α
  atan : α → α
  atan2 : α → α → α
  lt : α → α → Bool
  le : α → α → Bool
  isNaN : α → Bool
  isFinite : α → Bool

instance : Scalar Float where
  ofNat := Float.ofNat
  ofSingle := Number.Single.toFloat
  toSingle := Number.Single.ofFloat
  pi := 3.141592653589793
  sqrt := Float.sqrt
  sin := Float.sin
  cos := Float.cos
  atan := Float.atan
  atan2 := Float.atan2
  lt x y := x < y
  le x y := x ≤ y
  isNaN := Float.isNaN
  isFinite := Float.isFinite

namespace Scalar

variable {α : Type} [Scalar α]

def square (x : α) : α := x * x

def abs (x : α) : α := if lt x 0.0 then -x else x

/-- The larger of two values; one that is not a number gives way to the other. -/
def max (x y : α) : α := if isNaN x then y else if lt x y then y else x

/-- An angle in radians, given in degrees. -/
def toDegrees (x : α) : α := x * (180.0 / pi)

/-- The sum from left to right; no terms add up to negative zero. -/
def sum (xs : List α) : α := xs.foldl (· + ·) (-0.0)

end Scalar

end DriverMonitor
