/-! # Rounding an exact quotient

Every number text and every conversion of this library first forms an exact quotient of natural
numbers and then rounds once. `roundDiv` is that one rounding.
-/

namespace DriverMonitor.Number

/-- Where a quotient that lies exactly between two whole numbers goes. -/
inductive Tie where
  | toEven
  | up
  deriving DecidableEq, Repr

/-- Whether a tie above the whole number `q` is rounded up. -/
def Tie.roundsUp : Tie → Nat → Bool
  | .toEven, q => q % 2 == 1
  | .up, _ => true

/-- The whole number nearest to `num / den`. -/
def roundDiv (tie : Tie) (num den : Nat) : Nat :=
  let q := num / den
  let r := num % den
  match compare (2 * r) den with
  | .lt => q
  | .gt => q + 1
  | .eq => if tie.roundsUp q then q + 1 else q

end DriverMonitor.Number
