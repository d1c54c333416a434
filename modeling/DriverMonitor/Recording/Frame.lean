import DriverMonitor.Face.Landmark
import DriverMonitor.Json.Printer
import DriverMonitor.Json.Reader

/-! # Recorded frames

A recorded frame holds what was found in one image: eighteen landmarks, a face mesh to pick them
from, both, or neither. It is written as one line, an object with the members `face` and `mesh`; a
line may also hold an array of the two in that order, either of which may be missing at the end.
-/

namespace DriverMonitor

structure RecordedFrame (α : Type) where
  face : Option (Face α) := none
  mesh : Option (List (Point3 α)) := none
  deriving Repr, BEq, DecidableEq

/-- What a source of landmarks gives for one call. -/
inductive Extraction (α : Type) where
  | face (face : Face α)
  /-- An image without a face. -/
  | noFace
  | endOfStream
  deriving Repr, BEq, DecidableEq

namespace RecordedFrame

/-- The face of a frame. A mesh is looked at only if there are no landmarks. -/
def extraction {α : Type} (frame : RecordedFrame α) : Except Failure (Extraction α) :=
  match frame.face, frame.mesh with
  | some face, _ => .ok (.face face)
  | none, some mesh => (Mesh.face mesh.toArray).map .face
  | none, none => .ok .noFace

end RecordedFrame

/-! ## Points and faces in data files -/

/-- A point as an array of three numbers. -/
def Point3.ofJson? : JsonValue → Option (Point3 Float)
  | .array [x, y, z] => return ⟨← x.float?, ← y.float?, ← z.float?⟩
  | _ => none

def Point3.toJson (p : Point3 Float) : JsonValue := .array [.ofFloat p.x, .ofFloat p.y, .ofFloat p.z]

/-- A face as an array of its eighteen points. -/
def Face.ofJson? (v : JsonValue) : Option (Face Float) := (v.list? Point3.ofJson?).bind ofPoints?

def Face.toJson (f : Face Float) : JsonValue := .array (f.points.map Point3.toJson)

/-! ## Frames in data files -/

namespace RecordedFrame

def meshOfJson? (v : JsonValue) : Option (List (Point3 Float)) := v.list? Point3.ofJson?

def ofJson? : JsonValue → Option (RecordedFrame Float)
  | .object members =>
    if members.all (·.1.whole) then do
      let face ← JsonValue.member? "face" members
      let mesh ← JsonValue.member? "mesh" members
      return ⟨← (face.getD .null).nullable? Face.ofJson?, ← (mesh.getD .null).nullable? meshOfJson?⟩
    else none
  | .array [] => some {}
  | .array [face] => return { face := ← face.nullable? Face.ofJson? }
  | .array [face, mesh] =>
    return { face := ← face.nullable? Face.ofJson?, mesh := ← mesh.nullable? meshOfJson? }
  | _ => none

/-- The value that a frame is written as. An absent mesh is left out, an absent face is not. -/
def toJson (frame : RecordedFrame Float) : JsonValue :=
  .ofMembers <| ("face", frame.face.elim .null Face.toJson) ::
    frame.mesh.toList.map fun mesh => ("mesh", .array (mesh.map Point3.toJson))

def parse? (line : String) : Option (RecordedFrame Float) := (JsonValue.parse? line).bind ofJson?

def render (frame : RecordedFrame Float) : String := frame.toJson.render

end RecordedFrame

end DriverMonitor
