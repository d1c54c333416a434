import DriverMonitor.Number.Rounding

/-! # Binary floating-point layouts

A layout names how many bits of a word hold the mantissa and how many the exponent. `Layout.read`
says which number a word stands for and `Layout.ofDyadic` gives the word nearest to an exact
`mantissa · 2^exponent`, ties going to the even mantissa. Both work on natural numbers, so that
conversions between single and double precision are defined, not assumed.

The packing in `Layout.ofDyadic` adds the rounded mantissa, hidden bit included, to a shifted
exponent: a mantissa that rounds up to the next power of two carries into the exponent field by
itself, and so does a subnormal that rounds up to the least normal number.
-/

namespace DriverMonitor.Number

/-- Widths of the fields of a binary floating-point word below its sign bit. -/
structure Layout where
  /-- Bits of the mantissa without the hidden leading bit. -/
  mantissaBits : Nat
  exponentBits : Nat
  deriving DecidableEq, Repr

/-- What a word stands for. A finite value is `mantissa · 2^exponent`, negated if `negative`. -/
inductive Reading where
  | nan
  | infinite (negative : Bool)
  | finite (negative : Bool) (mantissa : Nat) (exponent : Int)
  deriving DecidableEq, Repr

namespace Layout

def single : Layout := ⟨23, 8⟩

def double : Layout := ⟨52, 11⟩

/-- Exponent of the least significant mantissa bit of a subnormal. -/
def leastExponent (l : Layout) : Int :=
  2 - (1 <<< (l.exponentBits - 1) : Nat) - l.mantissaBits

/-- The word of positive infinity. -/
def infinity (l : Layout) : Nat :=
  ((1 <<< l.exponentBits) - 1) <<< l.mantissaBits

def signBit (l : Layout) : Nat :=
  1 <<< (l.exponentBits + l.mantissaBits)

/-- The number that a word stands for. -/
def read (l : Layout) (word : Nat) : Reading :=
  let negative := word.testBit (l.exponentBits + l.mantissaBits)
  let field := (word >>> l.mantissaBits) % (1 <<< l.exponentBits)
  let fraction := word % (1 <<< l.mantissaBits)
  if field = (1 <<< l.exponentBits) - 1 then
    if fraction = 0 then .infinite negative else .nan
  else if field = 0 then .finite negative fraction l.leastExponent
  else .finite negative (fraction + (1 <<< l.mantissaBits)) (l.leastExponent + field - 1)

/-- The word nearest to the positive dyadic number `mantissa · 2^exponent`, infinity past the
largest finite number. -/
def magnitude (l : Layout) (mantissa : Nat) (exponent : Int) : Nat :=
  if mantissa = 0 then 0
  else
    let length : Int := mantissa.log2 + 1
    let least := l.leastExponent
    -- the place of the last mantissa bit that fits
    let unit := max (exponent + length - (l.mantissaBits + 1)) least
    let rounded :=
      if exponent ≥ unit then mantissa <<< (exponent - unit).toNat
      else if unit - exponent > length + 1 then 0
      else roundDiv .toEven mantissa (1 <<< (unit - exponent).toNat)
    min l.infinity (((unit - least).toNat <<< l.mantissaBits) + rounded)

/-- The word nearest to `±mantissa · 2^exponent`. -/
def ofDyadic (l : Layout) (negative : Bool) (mantissa : Nat) (exponent : Int) : Nat :=
  l.magnitude mantissa exponent + if negative then l.signBit else 0

end Layout

end DriverMonitor.Number
