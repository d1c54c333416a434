import DriverMonitor.Json.Numeral
import DriverMonitor.Toml.Value

/-! # Numbers, dates and truth values of TOML

Each of these values is one token, a run of characters that ends before a blank, a comma or a closing
bracket. `TomlValue.ofToken?` says which value a token is, and refuses a token that is none. The one
exception is a date and a time with a blank between them, which are two tokens.

Underscores may stand between digits only, a decimal number does not begin with a needless zero, and
a floating-point number has digits on both sides of its point.
-/

namespace DriverMonitor.Toml

/-! ## Digits -/

/-- Digits, with single underscores between them, without the underscores. -/
def underscored (isDigit : Char → Bool) : List Char → Option (List Char)
  | [] => none
  | [c] => if isDigit c then some [c] else none
  | c :: '_' :: rest => if isDigit c then (underscored isDigit rest).map (c :: ·) else none
  | c :: rest => if isDigit c then (underscored isDigit rest).map (c :: ·) else none

/-- The digits before a point: a zero stands alone. -/
def wholeDigits (cs : List Char) : Option (List Char) :=
  match cs with
  | ['0'] => some ['0']
  | '0' :: _ => none
  | cs => underscored Char.isDigit cs

/-- The sign in front, true for minus, and what follows it. -/
def splitSign : List Char → Bool × List Char
  | '+' :: rest => (false, rest)
  | '-' :: rest => (true, rest)
  | cs => (false, cs)

/-! ## Integers -/

def isHexDigit (c : Char) : Bool :=
  c.isDigit || ('a' ≤ c && c ≤ 'f') || ('A' ≤ c && c ≤ 'F')

def isOctalDigit (c : Char) : Bool := '0' ≤ c && c ≤ '7'

def isBinaryDigit (c : Char) : Bool := c == '0' || c == '1'

def digitValue (c : Char) : Nat :=
  if c.isDigit then c.toNat - '0'.toNat
  else if 'a' ≤ c then c.toNat - 'a'.toNat + 10
  else c.toNat - 'A'.toNat + 10

def ofDigits (base : Nat) (digits : List Char) : Nat :=
  digits.foldl (fun n c => base * n + digitValue c) 0

/-- The integer, if it fits 64 bits. -/
def inRange? (i : Int) : Option Int :=
  if Int64.minValue.toInt ≤ i ∧ i ≤ Int64.maxValue.toInt then some i else none

def integer? : List Char → Option Int
  | '0' :: 'x' :: rest => (underscored isHexDigit rest).bind fun ds => inRange? (ofDigits 16 ds)
  | '0' :: 'o' :: rest => (underscored isOctalDigit rest).bind fun ds => inRange? (ofDigits 8 ds)
  | '0' :: 'b' :: rest => (underscored isBinaryDigit rest).bind fun ds => inRange? (ofDigits 2 ds)
  | cs =>
    let (negative, rest) := splitSign cs
    (wholeDigits rest).bind fun ds =>
      let n : Int := ofDigits 10 ds
      inRange? (if negative then -n else n)

/-! ## Floating-point numbers -/

/-- The double-precision number nearest to `digits · 10^exponent`. -/
def nearestFloat (digits : Nat) (exponent : Int) : Float :=
  let point := exponent + Number.digitCount digits
  if digits = 0 ∨ point < -400 then 0.0
  else if 400 < point then .ofBits (.ofNat Number.Layout.double.infinity)
  else .ofScientific digits (exponent < 0) exponent.natAbs

/-- The power of ten behind an `e`; zero where there is none. -/
def power? : List Char → Option Int
  | [] => some 0
  | c :: rest =>
    if c = 'e' ∨ c = 'E' then
      let (negative, digits) := splitSign rest
      (underscored Char.isDigit digits).map fun ds =>
        if negative then -(ofDigits 10 ds : Int) else ofDigits 10 ds
    else none

def isPowerMark (c : Char) : Bool := c == 'e' || c == 'E'

/-- The digits of a fraction, none where there is no point. -/
def fraction? : List Char → Option (List Char)
  | [] => some []
  | '.' :: rest => underscored Char.isDigit rest
  | _ => none

/-- A number with a point or a power of ten. One beyond the largest number is refused, one below the
least is the negative infinity. -/
def float? (cs : List Char) : Option Float := do
  let (negative, rest) := splitSign cs
  match rest with
  | ['i', 'n', 'f'] => return if negative then -1.0 / 0.0 else 1.0 / 0.0
  | ['n', 'a', 'n'] => return 0.0 / 0.0
  | _ =>
    let (mantissa, power) := rest.span (!isPowerMark ·)
    let (whole, fraction) := mantissa.span (· != '.')
    -- this is a whole number
    if power = [] ∧ fraction = [] then none
    else
      let whole ← wholeDigits whole
      let fraction ← fraction? fraction
      let exponent ← power? power
      let x := nearestFloat (ofDigits 10 (whole ++ fraction)) (exponent - fraction.length)
      if negative then return -x else if x.isInf then none else return x

/-! ## Dates and times -/

/-- A number of exactly two digits up to a bound. -/
def twoDigits? (least most : Nat) : List Char → Option (Nat × List Char)
  | a :: b :: rest =>
    if a.isDigit ∧ b.isDigit then
      let n := ofDigits 10 [a, b]
      if least ≤ n ∧ n ≤ most then some (n, rest) else none
    else none
  | _ => none

def daysInMonth (year month : Nat) : Nat :=
  if month = 2 then
    if year % 4 = 0 ∧ (year % 100 ≠ 0 ∨ year % 400 = 0) then 29 else 28
  else if month = 4 ∨ month = 6 ∨ month = 9 ∨ month = 11 then 30 else 31

/-- What follows a date. -/
def afterDate? : List Char → Option (List Char)
  | a :: b :: c :: d :: '-' :: rest => do
    if ¬ [a, b, c, d].all Char.isDigit then none
    let (month, rest) ← twoDigits? 1 12 rest
    match rest with
    | '-' :: rest =>
      let (_, rest) ← twoDigits? 1 (daysInMonth (ofDigits 10 [a, b, c, d]) month) rest
      return rest
    | _ => none
  | _ => none

/-- What follows the fraction of a second, if there is one. -/
def afterSecondFraction? : List Char → Option (List Char)
  | '.' :: rest =>
    match rest.span Char.isDigit with
    | ([], _) => none
    | (_, rest) => some rest
  | cs => some cs

/-- What follows a time of day. -/
def afterTime? (cs : List Char) : Option (List Char) := do
  let (_, rest) ← twoDigits? 0 23 cs
  let ':' :: rest := rest | none
  let (_, rest) ← twoDigits? 0 59 rest
  let ':' :: rest := rest | none
  let (_, rest) ← twoDigits? 0 60 rest
  afterSecondFraction? rest

/-- Whether characters are a time zone, or none at all. -/
def isOffset : List Char → Bool
  | [] | ['Z'] | ['z'] => true
  | c :: rest =>
    (c == '+' || c == '-') &&
      match twoDigits? 0 23 rest with
      | some (_, ':' :: rest) => (twoDigits? 0 59 rest).any (·.2 == [])
      | _ => false

/-- Whether characters are a time of day and perhaps a time zone. -/
def isOffsetTime (cs : List Char) : Bool := (afterTime? cs).any isOffset

def isDate (cs : List Char) : Bool := afterDate? cs == some []

/-- Whether characters are a date, a time of day, or both around a `T`. -/
def isDateTime (cs : List Char) : Bool :=
  match afterDate? cs with
  | some [] => true
  | some (c :: rest) => (c == 'T' || c == 't') && isOffsetTime rest
  | none => afterTime? cs == some []

/-! ## Tokens -/

def isTokenChar (c : Char) : Bool :=
  c.isAlphanum || c == '+' || c == '-' || c == '.' || c == '_' || c == ':'

/-- The value that a token is. -/
def ofToken? (cs : List Char) : Option TomlValue :=
  if cs = "true".toList then some (.boolean true)
  else if cs = "false".toList then some (.boolean false)
  else if isDateTime cs then some (.datetime (String.ofList cs))
  else
    match integer? cs with
    | some i => some (.integer i)
    | none => (float? cs).map .float

def readScalar (cs : List Char) : Option (TomlValue × List Char) := do
  -- a date may go on with a time of day behind one blank
  let (token, rest) := cs.span isTokenChar
  match isDate token, rest with
  | true, ' ' :: c :: more =>
    if c.isDigit then
      let (time, rest) := (c :: more).span isTokenChar
      if isOffsetTime time then return (.datetime (String.ofList (token ++ ' ' :: time)), rest)
      else none
    else return (← ofToken? token, rest)
  | _, _ => return (← ofToken? token, rest)

end DriverMonitor.Toml
