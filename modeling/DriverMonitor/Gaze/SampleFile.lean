import DriverMonitor.Gaze.Calibration
import DriverMonitor.Recording.Frame
import DriverMonitor.Text.Utf8

/-! # Sample files

Calibration samples are kept as an array of objects with the members `landmarks`, `yaw` and `pitch`.
Other members are passed over, but the whole file has to be plain: every number needs a value, every
string has to be text, and nothing is nested deeper than `sampleDepth`.
-/

namespace DriverMonitor

/-- How deep a sample file may be nested. -/
def sampleDepth : Nat := 127

namespace CalibrationSample

def ofJson? : JsonValue → Option (CalibrationSample Float)
  | .object members => do
    let landmarks ← (← JsonValue.member? "landmarks" members).bind Face.ofJson?
    let yaw ← (← JsonValue.member? "yaw" members).bind JsonValue.float?
    let pitch ← (← JsonValue.member? "pitch" members).bind JsonValue.float?
    return ⟨landmarks, ⟨yaw, pitch⟩⟩
  | _ => none

def parseAll? (text : String) : Option (List (CalibrationSample Float)) := do
  let v ← JsonValue.parse? text
  if v.isPlain sampleDepth then v.list? ofJson? else none

def readAll (bytes : List UInt8) : Except Failure (List (CalibrationSample Float)) :=
  ((Text.ofUtf8? bytes).bind parseAll?).elim (.error .json) .ok

end CalibrationSample

end DriverMonitor
