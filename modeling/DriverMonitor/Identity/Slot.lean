/-! # Enrollment slots

A slot is the storage key of a driver, independent of the driver's name. It is written in plain
decimal and read more liberally: leading zeros and one plus sign are accepted. So several texts may
name one slot, but each slot has one text of its own, which is what its file is named after.
-/

namespace DriverMonitor

/-- Key of an enrolled driver. -/
structure SlotId where
  number : UInt32
  deriving DecidableEq, Repr, Inhabited

/-- Why a text is no slot. -/
inductive SlotTextFault where
  | empty
  | invalidDigit
  | tooLarge
  deriving DecidableEq, Repr

def SlotTextFault.message : SlotTextFault → String
  | .empty => "cannot parse integer from empty string"
  | .invalidDigit => "invalid digit found in string"
  | .tooLarge => "number too large to fit in target type"

namespace SlotId

def ofNat (n : Nat) : SlotId := ⟨.ofNat n⟩

def toNat (s : SlotId) : Nat := s.number.toNat

/-- The slot in plain decimal. -/
def toText (s : SlotId) : String := String.ofList (Nat.toDigits 10 s.toNat)

instance : ToString SlotId := ⟨toText⟩

def digitValue? (c : Char) : Option Nat :=
  if '0' ≤ c ∧ c ≤ '9' then some (c.toNat - '0'.toNat) else none

/-- Reads digits onto a value, from left to right: the first character that is no digit, or the
first digit that makes the value too large, decides. -/
def parseDigits : Nat → List Char → Except SlotTextFault Nat
  | value, [] => .ok value
  | value, c :: rest =>
    match digitValue? c with
    | none => .error .invalidDigit
    | some d =>
      if value * 10 + d < UInt32.size then parseDigits (value * 10 + d) rest
      else .error .tooLarge

/-- Reads a slot. One plus sign may stand in front of the digits. -/
def parse (text : String) : Except SlotTextFault SlotId :=
  match text.toList with
  | [] => .error .empty
  | ['+'] | ['-'] => .error .invalidDigit
  | '+' :: digits => (parseDigits 0 digits).map ofNat
  | digits => (parseDigits 0 digits).map ofNat

def parse? (text : String) : Option SlotId := (parse text).toOption

end SlotId

end DriverMonitor
