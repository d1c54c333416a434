import DriverMonitor.Number.Layout

/-! # Single-precision numbers carried by their bits

Embeddings and gaze weights are stored as 32-bit words and come back bit for bit, so `Single` is
the word itself. Arithmetic agrees with `Float32` on everything that is a number. On what is not a
number it keeps the word: an operation with such an operand hands on the first one, made quiet,
and an operation that has no result yields `Single.undefined`, whose sign bit is set.

`Single.total` is the order of all words: negative before positive, zeros apart, and what is not a
number at either end, by its sign.
-/

namespace DriverMonitor.Number

/-- A single-precision number, as its 32-bit word. -/
structure Single where
  bits : UInt32
  deriving DecidableEq, Repr, Inhabited

namespace Single

/-! ## Reading a word -/

def reading (x : Single) : Reading := Layout.single.read x.bits.toNat

def isNaN (x : Single) : Bool := 0x7f800000 < x.bits &&& 0x7fffffff

def zero : Single := ⟨0⟩

/-- The neutral element of addition: unlike positive zero it also keeps the sign of a zero. -/
def negativeZero : Single := ⟨0x80000000⟩

/-- The result of an operation that has none, such as the difference of equal infinities. -/
def undefined : Single := ⟨0xffc00000⟩

/-- The same word with the bit set that marks what is not a number as quiet. -/
def quiet (x : Single) : Single := ⟨x.bits ||| 0x00400000⟩

/-- Differs from zero of either sign; so does everything that is not a number. -/
def isNonzero (x : Single) : Bool := x.bits &&& 0x7fffffff != 0

def toFloat32 (x : Single) : Float32 := Float32.ofBits x.bits

/-- The word of a `Float32`, `Single.undefined` if it is not a number. -/
def ofResult (r : Float32) : Single :=
  if r.isNaN then undefined else ⟨r.toBits⟩

/-! ## Conversions -/

/-- The nearest single-precision number, infinite beyond the largest finite one. -/
def ofFloat (x : Float) : Single :=
  match Layout.double.read x.toBits.toNat with
  | .nan => ⟨0x7fc00000⟩
  | .infinite negative => ⟨if negative then 0xff800000 else 0x7f800000⟩
  | .finite negative m e => ⟨.ofNat (Layout.single.ofDyadic negative m e)⟩

def toFloat (x : Single) : Float :=
  match x.reading with
  | .nan => .ofBits 0x7ff8000000000000
  | .infinite negative => .ofBits (if negative then 0xfff0000000000000 else 0x7ff0000000000000)
  | .finite negative m e => .ofBits (.ofNat (Layout.double.ofDyadic negative m e))

/-- The single-precision number nearest to a natural number. -/
def ofNat (n : Nat) : Single := ⟨.ofNat (Layout.single.ofDyadic false n 0)⟩

/-! ## Arithmetic -/

/-- Applies `op` unless an operand is not a number, in which case the first such one stays. -/
def combine (op : Float32 → Float32 → Float32) (a b : Single) : Single :=
  if a.isNaN then a.quiet
  else if b.isNaN then b.quiet
  else ofResult (op a.toFloat32 b.toFloat32)

def add : Single → Single → Single := combine (· + ·)

def sub : Single → Single → Single := combine (· - ·)

def mul : Single → Single → Single := combine (· * ·)

def div : Single → Single → Single := combine (· / ·)

def sqrt (x : Single) : Single :=
  if x.isNaN then x.quiet else ofResult x.toFloat32.sqrt

instance : Add Single := ⟨add⟩
instance : Sub Single := ⟨sub⟩
instance : Mul Single := ⟨mul⟩
instance : Div Single := ⟨div⟩

/-- The sum from left to right; no terms add up to negative zero. -/
def sum (xs : List Single) : Single := xs.foldl (· + ·) negativeZero

def mean (xs : List Single) : Single := sum xs / ofNat xs.length

/-! ## Order -/

/-- Less than, false whenever an operand is not a number. -/
def lt (a b : Single) : Bool := a.toFloat32 < b.toFloat32

/-- Position of a word in the total order. -/
def rank (x : Single) : Int :=
  if x.bits < 0x80000000 then x.bits.toNat else 0x7fffffff - (x.bits.toNat : Int)

/-- The total order of all words. -/
def total (a b : Single) : Ordering := compare a.rank b.rank

end Single

end DriverMonitor.Number
