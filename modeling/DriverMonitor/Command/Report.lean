import DriverMonitor.Files.Timestamp
import DriverMonitor.Identity.Matcher
import DriverMonitor.Json.Printer
import DriverMonitor.Monitor.Pipeline

/-! # What the program prints

A report is a list of lines and perhaps the failure that ended it. The state of the driver is a line
of its own kind, so that who reads the report need not take its text apart.
-/

namespace DriverMonitor

open Number (Single fixed)

/-- What was being done when a failure came up. -/
inductive Undertaking where
  | readingEmbeddings (path : String)
  | readingCalibration (path : String)
  | readingFaces (path : String)
  | openingRecording (path : String)
  deriving DecidableEq, Repr

def Undertaking.text : Undertaking → String
  | .readingEmbeddings path => s!"reading embeddings from {path}"
  | .readingCalibration path => s!"reading calibration from {path}"
  | .readingFaces path => s!"reading face embeddings from {path}"
  | .openingRecording path => s!"opening recording {path}"

inductive CommandFault where
  | plain (f : Failure)
  | during (what : Undertaking) (f : Failure)
  | noProfile (slot : SlotId)

/-- The lines that tell of a fault. The first one says all that the command knew. -/
def CommandFault.lines : CommandFault → List String
  | .plain f => [s!"Error: {f.message}"]
  | .during what f => [s!"Error: {what.text}", "", "Caused by:", s!"    {f.message}"]
  | .noProfile slot => [s!"Error: no profile in slot {slot}"]

inductive ReportLine where
  | text (s : String)
  | state (s : DriverState Float)

def DriverState.toJson (s : DriverState Float) : JsonValue :=
  .ofMembers [
    ("gaze", .ofMembers [("yaw", .ofFloat s.gaze.yaw), ("pitch", .ofFloat s.gaze.pitch)]),
    ("eyes", .ofMembers [("left", .ofFloat s.eyes.left), ("right", .ofFloat s.eyes.right),
      ("combined", .ofFloat s.eyes.combined)]),
    ("model", .ofText s.model.name),
    ("rate_hz", .ofFloat s.rateHz)]

def ReportLine.render : ReportLine → String
  | .text s => s
  | .state s => s.toJson.render

/-! ## Columns -/

def padRight (width : Nat) (s : String) : String :=
  s ++ String.ofList (List.replicate (width - s.length) ' ')

def padLeft (width : Nat) (s : String) : String :=
  String.ofList (List.replicate (width - s.length) ' ') ++ s

/-! ## Lines -/

namespace Report

def slotLine (slot : SlotId) (modified : Option Timestamp) :
    Except Failure (Option Profile) → String
  | .ok (some p) =>
    let calibrated := if p.calibration?.isSome then "calibrated" else "-"
    let time := (modified.map Timestamp.brief).getD ""
    s!"  [{slot}] {padRight 20 p.name} {padLeft 3 (toString p.embeddings.length)} embeddings  " ++
      s!"{padRight 11 calibrated} {time}"
  | .ok none => s!"  [{slot}] (empty)"
  | .error f => s!"  [{slot}] ⚠️  {f.message}"

/-- The length of an embedding as a vector. -/
def norm (values : Embedding) : Single := (Single.sum (values.map fun v => v * v)).sqrt

def embeddingLine (index : Nat) (v : EmbeddingVector) : String :=
  s!"  #{padRight 3 (toString index)} shape ({v.rows}, {v.cols})  " ++
    s!"norm {fixed 4 (norm v.values).reading}"

def weightLine (weights : Single × Single) : String :=
  s!"  {padLeft 12 (fixed 5 weights.1.reading)} | {padLeft 12 (fixed 5 weights.2.reading)}"

def profileLines (slot : SlotId) (p : Profile) (modified : Option Timestamp) : List String :=
  [s!"Slot:       {slot}", s!"Name:       {p.name}"] ++
    (modified.toList.map fun t => s!"Modified:   {t.full}") ++
    [s!"Embeddings: {p.embeddings.length}"] ++
    p.embeddings.mapIdx embeddingLine ++
    match p.calibration? with
    | some c => "Gaze calibration (yaw | pitch):" :: c.pairs.toList.map weightLine
    | none => ["Gaze calibration: none"]

def outcomeLine : AuthOutcome → String
  | .accepted slot name distance =>
    s!"Authentication: SUCCESS - {name} (slot {slot}, distance {fixed 3 distance.reading})"
  | .rejected reason => s!"Authentication: FAILED - {reason.message}"

def enrolledLine (name : String) (slot : SlotId) (count : Nat) : String :=
  s!"✅ Enrolled '{name}' in slot {slot} ({count} embeddings)"

def summaryLine (c : CaptureCounts) (i : InferenceCounts) : String :=
  s!"Replayed {c.frames} frames ({c.misses} without a face, {c.errors} unreadable); " ++
    s!"published {i.published} results, {i.failed} failed ticks"

end Report

end DriverMonitor
