import DriverMonitor.Number.Decimal

/-! # Numerals in data files

A numeral is kept as it is written, since not every numeral has a value: one beyond the range of
double precision is well formed, and an error only for who asks for its value.

`Numeral.toFloat?` takes up digits as long as they fit 64 bits; later ones count for their place
only. The number so found is rounded, and then multiplied or divided by a power of ten. So the value
is the nearest double-precision number whenever the digits and the power are both exact, and can be a
neighbour of it beyond that.
-/

namespace DriverMonitor

open Number

/-- A decimal numeral as it is written. -/
structure Numeral where
  negative : Bool
  /-- Digits before the point, of which the first is zero only if it is the only one. -/
  whole : List Char
  /-- Digits after the point; none, if there is no point. -/
  fraction : List Char := []
  exponent : Option Int := none
  deriving DecidableEq, Repr

namespace Numeral

/-! ## Reading -/

/-- The natural number that decimal digits stand for. -/
def digitsToNat (digits : List Char) : Nat :=
  digits.foldl (fun n c => 10 * n + (c.toNat - '0'.toNat)) 0

/-- The digits at the front, at least one. -/
def readDigits (cs : List Char) : Option (List Char × List Char) :=
  match cs.span Char.isDigit with
  | ([], _) => none
  | digits => some digits

def readWhole (cs : List Char) : Option (List Char × List Char) := do
  let (digits, rest) ← readDigits cs
  if digits.head? = some '0' ∧ digits.length ≠ 1 then none else return (digits, rest)

/-- The digits after a point, none where there is no point. -/
def readFraction : List Char → Option (List Char × List Char)
  | '.' :: rest => readDigits rest
  | cs => some ([], cs)

/-- The power of ten behind an `e`. -/
def readPower : List Char → Option (Int × List Char)
  | '+' :: rest => (readDigits rest).map fun (digits, rest) => (digitsToNat digits, rest)
  | '-' :: rest => (readDigits rest).map fun (digits, rest) => (-digitsToNat digits, rest)
  | rest => (readDigits rest).map fun (digits, rest) => (digitsToNat digits, rest)

/-- The power of ten, if there is one. -/
def readExponent : List Char → Option (Option Int × List Char)
  | 'e' :: rest | 'E' :: rest => (readPower rest).map fun (power, rest) => (some power, rest)
  | cs => some (none, cs)

def readMagnitude (negative : Bool) (cs : List Char) : Option (Numeral × List Char) := do
  let (whole, cs) ← readWhole cs
  let (fraction, cs) ← readFraction cs
  let (exponent, cs) ← readExponent cs
  return (⟨negative, whole, fraction, exponent⟩, cs)

def read : List Char → Option (Numeral × List Char)
  | '-' :: rest => readMagnitude true rest
  | cs => readMagnitude false cs

/-! ## Writing -/

def toChars (n : Numeral) : List Char :=
  (if n.negative then ['-'] else []) ++ n.whole ++
    (if n.fraction = [] then [] else '.' :: n.fraction) ++
    (n.exponent.elim [] fun e => 'e' :: (toString e).toList)

/-! ## Values -/

/-- Appends digits to a number as long as it stays below `2^64`, and counts them. -/
def takeUp : Nat → List Char → Nat × Nat
  | n, [] => (n, 0)
  | n, c :: rest =>
    let next := 10 * n + (c.toNat - '0'.toNat)
    if next < UInt64.size then
      let (m, count) := takeUp next rest
      (m, count + 1)
    else (n, 0)

/-- `10^k`, for `k` up to 308. -/
def floatPowerOfTen (k : Nat) : Float := .ofScientific 1 false k

/-- `x / 10^k`, by steps of at most `10^308`. -/
def scaleDown (x : Float) (k : Nat) : Float :=
  if k ≤ 308 then x / floatPowerOfTen k
  else if x == 0 then x
  else scaleDown (x / floatPowerOfTen 308) (k - 308)
termination_by k

/-- `digits · 10^exponent`, unless that is beyond the largest number. -/
def scaled (digits : Nat) (exponent : Int) : Option Float :=
  let x := Float.ofBits (.ofNat (Layout.double.ofDyadic false digits 0))
  if exponent < 0 then some (scaleDown x exponent.natAbs)
  -- zero stays zero under every power of ten
  else if digits = 0 then some x
  else if exponent ≤ 308 then
    let y := x * floatPowerOfTen exponent.toNat
    if y.isInf then none else some y
  else none

def toFloat? (n : Numeral) : Option Float :=
  let (head, taken) := takeUp 0 n.whole
  let (digits, places) := takeUp head n.fraction
  let exponent := n.exponent.getD 0 + (n.whole.length - taken : Nat) - places
  (scaled digits exponent).map fun x => if n.negative then -x else x

/-- The value of a whole number that fits a 64-bit word. Negative zero is no whole number. -/
def toInteger? (n : Numeral) : Option Int :=
  let m := digitsToNat n.whole
  if n.fraction ≠ [] ∨ n.exponent ≠ none then none
  else if n.negative then (if 0 < m ∧ Int64.minValue.toInt ≤ -m then some (-m) else none)
  else if m < UInt64.size then some m else none

/-- The value in single precision: of a whole number the nearest, of any other the one nearest to
its value in double precision. -/
def toSingle? (n : Numeral) : Option Single :=
  match n.toInteger? with
  | some i => some ⟨.ofNat (Layout.single.ofDyadic (i < 0) i.natAbs 0)⟩
  | none => n.toFloat?.map Single.ofFloat

/-- The numeral of a finite number, with the fewest digits that tell it from all others. -/
def ofFloat? (x : Float) : Option Numeral :=
  match read (dataText x).toList with
  | some (n, []) => some n
  | _ => none

end Numeral

end DriverMonitor
