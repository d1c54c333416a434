import DriverMonitor.Identity.Profile
import DriverMonitor.Identity.Profile.ByteReader
import DriverMonitor.Number.LittleEndian
import DriverMonitor.Text.Utf8

/-! # Profile files

A profile is a sequence of little-endian words:

* the number of vectors, 8 bytes;
* for each vector its rows and columns, 8 bytes each, and its values, 4 bytes each;
* five pairs of weights, horizontal first, 4 bytes each;
* the length of the name, 8 bytes, and the name in UTF-8.

A file may end after the weights; the driver is then named after the slot. Headers beyond
`maxVectors`, `maxVectorValues` and `maxNameBytes` are refused before anything is read for them, and
what follows the name is not looked at.

`Profile.decodeFrom` reads from any `ByteReader`. A field that has to be there is filled in one go,
whatever the pieces are in which its bytes arrive. Only the length of the name may be missing, so it
is read piece by piece: the end of the bytes is no fault in front of its first byte, and is one
behind it.
-/

namespace DriverMonitor

open Number

/-! ## Writing -/

/-- A word of 8 bytes. -/
def encodeNat (n : Nat) : List UInt8 := LittleEndian.ofNat 8 n

/-- The four bytes of a single-precision number. -/
def encodeSingle (x : Single) : List UInt8 := LittleEndian.ofNat 4 x.bits.toNat

def EmbeddingVector.encode (v : EmbeddingVector) : List UInt8 :=
  encodeNat v.rows.toNat ++ encodeNat v.cols.toNat ++ v.values.flatMap encodeSingle

def GazeCoefficients.encode (c : GazeCoefficients) : List UInt8 :=
  c.pairs.toList.flatMap fun (h, v) => encodeSingle h ++ encodeSingle v

def encodeName (name : String) : List UInt8 :=
  encodeNat (Text.utf8 name).length ++ Text.utf8 name

def Profile.encodeBody (p : Profile) : List UInt8 :=
  encodeNat p.embeddings.length ++ p.embeddings.flatMap EmbeddingVector.encode ++ p.weights.encode

def Profile.encode (p : Profile) : List UInt8 := p.encodeBody ++ encodeName p.name

/-! ## Reading -/

/-- A step of reading a profile. -/
abbrev Decoder (σ α : Type) := StateT σ (Except Corruption) α

/-- Numbers made of four bytes each. -/
def decodeSingles : List UInt8 → List Single
  | a :: b :: c :: d :: rest => ⟨.ofNat (LittleEndian.toNat [a, b, c, d])⟩ :: decodeSingles rest
  | _ => []

def decodeName (bytes : List UInt8) : Except Corruption String :=
  (Text.ofUtf8? bytes).elim (.error .nameNotText) .ok

namespace ByteReader

variable {σ : Type} (input : ByteReader σ)

/-- The next `n` bytes, which all have to be there. -/
def exactly (n : Nat) (part : ProfilePart) : Decoder σ (List UInt8) := fun s =>
  let (bytes, rest) := input.fill n s
  if bytes.length = n then .ok (bytes, rest) else .error (.truncated part)

/-- A word of 8 bytes. -/
def nat (part : ProfilePart) : Decoder σ Nat :=
  return LittleEndian.toNat (← input.exactly 8 part)

/-- The word of 8 bytes that begins with those already read, or nothing where the bytes end before
the first of them. -/
def natFrom? (part : ProfilePart) (filled : List UInt8) (s : σ) :
    Except Corruption (Option Nat × σ) :=
  if filled.length < 8 then
    match _ : input.read (8 - filled.length) s with
    | (.interrupted, t) => natFrom? part filled t
    | (.piece [], t) => if filled = [] then .ok (none, t) else .error (.truncated part)
    | (.piece (b :: p), t) => natFrom? part (filled ++ b :: p) t
  else .ok (some (LittleEndian.toNat filled), s)
termination_by input.readsLeft s
decreasing_by
  · exact readsLeft_lt_of_interrupted ‹_›
  · exact readsLeft_lt_of_piece ‹_›

/-- A word of 8 bytes, or nothing where the bytes end. -/
def nat? (part : ProfilePart) : Decoder σ (Option Nat) := input.natFrom? part []

def singles (count : Nat) (part : ProfilePart) : Decoder σ (List Single) :=
  return decodeSingles (← input.exactly (4 * count) part)

/-- The vector at a position in the list. -/
def vector (index : Nat) : Decoder σ EmbeddingVector := do
  let rows ← input.nat .vectorRows
  let cols ← input.nat .vectorCols
  if maxVectorValues < rows * cols then throw (.implausibleShape index rows cols)
  return ⟨.ofNat rows, .ofNat cols, ← input.singles (rows * cols) .vectorPayload⟩

/-- So many vectors, the first at a position in the list. -/
def vectors : Nat → Nat → Decoder σ (List EmbeddingVector)
  | _, 0 => return []
  | index, count + 1 => return (← input.vector index) :: (← vectors (index + 1) count)

/-- Values in pairs. -/
def pairUp {α : Type} : List α → List (α × α)
  | a :: b :: rest => (a, b) :: pairUp rest
  | _ => []

def weights : Decoder σ GazeCoefficients := do
  let values ← input.singles (2 * Terms.count) .gazeCoefficients
  match Terms.ofList? (pairUp values) with
  | some pairs => return .ofPairs pairs
  -- never happens: ten values make five pairs
  | none => throw (.truncated .gazeCoefficients)

/-- The name, `fallback` where the bytes end before it. -/
def name (fallback : String) : Decoder σ String := do
  match ← input.nat? .nameLength with
  | none => return fallback
  | some length =>
    if maxNameBytes < length then throw (.nameTooLong length)
    decodeName (← input.exactly length .name)

end ByteReader

/-- The name of a driver whose file has none. -/
def SlotId.driverName (slot : SlotId) : String := s!"driver-{slot}"

namespace Profile

/-- Reads a profile and leaves what follows it. -/
def decodeFrom {σ : Type} (input : ByteReader σ) (slot : SlotId) : Decoder σ Profile := do
  let count ← input.nat .vectorCount
  if maxVectors < count then throw (.tooManyVectors count)
  let embeddings ← input.vectors 0 count
  let weights ← input.weights
  let name ← input.name slot.driverName
  return { name, embeddings, weights }

/-- Reads the profile of a slot from any reader. -/
def readFrom {σ : Type} (input : ByteReader σ) (slot : SlotId) (s : σ) : Except Failure Profile :=
  match decodeFrom input slot s with
  | .ok (profile, _) => .ok profile
  | .error reason => .error (.corruptProfile slot reason)

/-- Reads the profile of a slot from the bytes of its file. -/
def decode (slot : SlotId) (bytes : List UInt8) : Except Failure Profile :=
  readFrom .ofList slot bytes

end Profile

end DriverMonitor
