import DriverMonitor.Number.Single

/-! # Decimal text of binary numbers

Three kinds of text are written, each from the exact value of the number:

* `fixed`: a given number of places after the point;
* `scientific`: a given number of significant digits and a power of ten;
* `shortest`: the fewest digits that read back as the same number, laid out by a `NumeralStyle`.

The first two round the exact quotient once, a tie going to the even digit. For the third,
`shortestDigits` walks the grids of one, two, … seventeen digits and stops at the first of which a
point next to the value lies among the numbers that round to it.
-/

namespace DriverMonitor.Number

/-! ## Exact quotients -/

/-- Decimal digits of a natural number, one for zero. -/
def digitCount (n : Nat) : Nat := (Nat.toDigits 10 n).length

/-- `2^e` as a quotient. -/
def powerOfTwo (e : Int) : Nat × Nat := (1 <<< e.toNat, 1 <<< (-e).toNat)

/-- `10^e` as a quotient. -/
def powerOfTen (e : Int) : Nat × Nat := (Nat.pow 10 e.toNat, Nat.pow 10 (-e).toNat)

/-- The largest `k` with `10^k ≤ num / den`, for a positive quotient. -/
def decimalExponent (num den : Nat) : Int :=
  if den ≤ num then digitCount (num / den) - 1
  else -(digitCount ((den + num - 1) / num - 1) : Int)

/-- `count` significant digits of a positive quotient, as a whole number, with the power of ten of
the first of them. -/
def significantDigits (count : Nat) (num den : Nat) : Nat × Int :=
  let k := decimalExponent num den
  let (p, q) := powerOfTen (count - 1 - k)
  let digits := roundDiv .toEven (num * p) (den * q)
  if digits = Nat.pow 10 count then (digits / 10, k + 1) else (digits, k)

/-! ## Fixed and scientific text -/

def signText (negative : Bool) : String := if negative then "-" else ""

/-- Decimal text of a natural number, filled with zeros on the left to a width. -/
def padded (width n : Nat) : String :=
  let digits := (Nat.toDigits 10 n)
  String.ofList (List.replicate (width - digits.length) '0' ++ digits)

/-- A whole number and its last `places` digits behind a point. -/
def withPoint (places n : Nat) : String :=
  if places = 0 then toString n
  else toString (n / Nat.pow 10 places) ++ "." ++ padded places (n % Nat.pow 10 places)

/-- What stands for a value that is no finite number. -/
def nonFiniteText : Reading → String
  | .nan => "NaN"
  | .infinite negative => signText negative ++ "inf"
  | .finite .. => ""

/-- The value with `places` digits after the point. The sign of a value that rounds to zero stays. -/
def fixed (places : Nat) : Reading → String
  | .finite negative m e =>
    let (p, q) := powerOfTwo e
    signText negative ++ withPoint places (roundDiv .toEven (m * p * Nat.pow 10 places) q)
  | r => nonFiniteText r

/-- The value with `count` significant digits and a power of ten. -/
def scientific (count : Nat) : Reading → String
  | .finite negative m e =>
    let (p, q) := powerOfTwo e
    let (digits, k) := if m = 0 then (0, 0) else significantDigits count (m * p) q
    signText negative ++ withPoint (count - 1) digits ++ "e" ++ toString k
  | r => nonFiniteText r

/-! ## Shortest text -/

/-- Significant digits as a whole number, and the power of ten of the last of them. -/
structure Digits where
  digits : Nat
  exponent : Int
  deriving DecidableEq, Repr

/-- Drops zeros at the end. -/
def Digits.trim (d : Digits) : Nat → Digits
  | 0 => d
  | fuel + 1 =>
    if d.digits % 10 = 0 ∧ d.digits ≠ 0 then Digits.trim ⟨d.digits / 10, d.exponent + 1⟩ fuel else d

/-- The point of the grid `10^s` next to `value` that lies between `low` and `high`, all three in
units of `2^u`. Of two such points the nearer is taken. -/
def gridPoint? (tie : Tie) (closed : Bool) (low value high : Nat) (u s : Int) : Option Nat :=
  let (p10, q10) := powerOfTen s
  let (p2, q2) := powerOfTwo u
  -- every quotient below has the denominator `q2 * q10`
  let point := p10 * q2
  let unit := p2 * q10
  let below := value * unit / point
  let inside (c : Nat) : Bool :=
    if closed then low * unit ≤ c * point && c * point ≤ high * unit
    else low * unit < c * point && c * point < high * unit
  match inside below, inside (below + 1) with
  | true, true => some (roundDiv tie (value * unit) point)
  | true, false => some below
  | false, true => some (below + 1)
  | false, false => none

/-- The fewest digits that read back as `mantissa · 2^exponent`, and of those the nearest. -/
def shortestDigits (tie : Tie) (l : Layout) (mantissa : Nat) (exponent : Int) : Digits :=
  -- in quarters of the last place: below a power of two the next number is half as far away
  let value := 4 * mantissa
  let narrow := mantissa = 1 <<< l.mantissaBits ∧ exponent ≠ l.leastExponent
  let low := if narrow then value - 1 else value - 2
  let (p, q) := powerOfTwo exponent
  let k := decimalExponent (mantissa * p) q
  let attempt (n : Nat) : Option Digits :=
    let s := k - n
    (gridPoint? tie (mantissa % 2 = 0) low value (value + 2) (exponent - 2) s).map (⟨·, s⟩)
  (((List.range 17).findSome? attempt).getD ⟨0, 0⟩).trim 20

/-- How shortest digits are laid out. -/
structure NumeralStyle where
  tie : Tie
  /-- Whole numbers end in `.0`. -/
  keepsPoint : Bool
  /-- Written without a power of ten when the point stands after more than `least` and at most
  `limit` digits; always, if absent. -/
  positional : Option (Int × Int)

/-- Numbers inside messages: no power of ten and no needless point. -/
def NumeralStyle.message : NumeralStyle := ⟨.up, false, none⟩

/-- Numbers inside data files: a point or a power of ten always shows that they are not whole. -/
def NumeralStyle.data : NumeralStyle := ⟨.toEven, true, some (-5, 16)⟩

/-- Lays out digits without a power of ten. -/
def positionalText (keepsPoint : Bool) (d : Digits) : String :=
  if 0 ≤ d.exponent then
    toString (d.digits * Nat.pow 10 d.exponent.toNat) ++ if keepsPoint then ".0" else ""
  else withPoint (-d.exponent).toNat d.digits

/-- Lays out digits with a power of ten. -/
def exponentialText (d : Digits) : String :=
  let count := digitCount d.digits
  withPoint (count - 1) d.digits ++ "e" ++ toString (d.exponent + count - 1)

def NumeralStyle.layOut (style : NumeralStyle) (d : Digits) : String :=
  let point := d.exponent + digitCount d.digits
  match style.positional with
  | none => positionalText style.keepsPoint d
  | some (least, limit) =>
    if least < point ∧ point ≤ limit then positionalText style.keepsPoint d else exponentialText d

def shortest (style : NumeralStyle) (l : Layout) (word : Nat) : String :=
  match l.read word with
  | .finite negative m e =>
    let d := if m = 0 then ⟨0, 0⟩ else shortestDigits style.tie l m e
    signText negative ++ (if m = 0 then (if style.keepsPoint then "0.0" else "0") else style.layOut d)
  | r => nonFiniteText r

/-- A double-precision number inside a message. -/
def messageText (x : Float) : String := shortest .message .double x.toBits.toNat

/-- A single-precision number inside a message. -/
def Single.messageText (x : Single) : String := shortest .message .single x.bits.toNat

/-- A double-precision number inside a data file. -/
def dataText (x : Float) : String := shortest .data .double x.toBits.toNat

/-! ## Examples -/

example : shortest .message .double 0x3fb999999999999a = "0.1" := by decide +kernel

example : shortest .data .double 0x0000000000000001 = "5e-324" := by decide +kernel

example : shortest .data .double 0x4341c37937e08000 = "1e16" := by decide +kernel

example : shortest .message .double 0x4341c37937e08000 = "10000000000000000" := by decide +kernel

example : shortest .data .double 0x8000000000000000 = "-0.0" := by decide +kernel

example : fixed 3 (.finite true 1 (-20)) = "-0.000" := by decide +kernel

example : scientific 3 (.finite false 12345 0) = "1.23e4" := by decide +kernel

end DriverMonitor.Number
