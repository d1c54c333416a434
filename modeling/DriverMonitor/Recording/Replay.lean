import DriverMonitor.Recording.Frame
import DriverMonitor.Text.Blank
import DriverMonitor.Text.Utf8

/-! # Replaying a recording

A recording is a file of lines, one frame each. A line ends with a line feed, which a carriage return
may precede, and the last one also with the file. Blank lines are passed over but counted. A line that
is no text is a failure and not counted, and any failure concerns its own line only: the next call
goes on with the next line.
-/

namespace DriverMonitor

/-- The lines of a file. What follows the last line feed is a line unless it is empty. -/
def splitLines : List UInt8 → List (List UInt8)
  | [] => []
  | b :: rest =>
    if b = 0x0a then [] :: splitLines rest
    -- part of the end of the line
    else if b = 0x0d ∧ rest.head? = some 0x0a then splitLines rest
    else
      match splitLines rest with
      -- the last line of a file that does not end with a line feed
      | [] => [[b]]
      | line :: lines => (b :: line) :: lines

/-- A recording that is being replayed: the lines not yet read, and how many lines of text were. -/
structure Recording where
  lines : List (List UInt8)
  count : Nat := 0
  deriving DecidableEq, Repr

namespace Recording

def ofBytes (bytes : List UInt8) : Recording := { lines := splitLines bytes }

/-- What the line of a number gives. -/
def readLine (text : String) (number : Nat) : Except Failure (Extraction Float) :=
  match RecordedFrame.parse? text with
  | some frame => frame.extraction
  | none => .error (.extraction (.unreadableLine number))

/-- Reads up to the next line that is not blank. -/
def nextFrom : List (List UInt8) → Nat → Except Failure (Extraction Float) × Recording
  | [], count => (.ok .endOfStream, ⟨[], count⟩)
  | line :: rest, count =>
    match Text.ofUtf8? line with
    | none => (.error .io, ⟨rest, count⟩)
    | some text =>
      if Text.isBlank text then nextFrom rest (count + 1)
      else (readLine text (count + 1), ⟨rest, count + 1⟩)

def next (r : Recording) : Except Failure (Extraction Float) × Recording := nextFrom r.lines r.count

end Recording

end DriverMonitor
