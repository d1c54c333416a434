import DriverMonitor.Proofs.Json.RoundTrip
import DriverMonitor.Proofs.Number.Double
import DriverMonitor.Recording.Frame

/-! # Frames as values

A frame is read from the value that it is written as, `ofJson?_toJson`, if its coordinates are read as
they are written. A coordinate that is no finite number is written as `null`, which is not read where a
number is expected: `ofJson?_toJson_eq_none`. So one such coordinate makes the whole frame unreadable,
whether it belongs to the face or to the mesh.
-/

namespace DriverMonitor

open Number

/-! ## Numbers -/

section Numbers

variable {x : Float}

/-- What is no finite number has no numeral. -/
theorem Numeral.ofFloat?_eq_none (infinite : Scalar.isFinite x = false) : Numeral.ofFloat? x = none := by
  rw [ofFloat?, dataText, shortest]
  obtain nan | ⟨negative, infinity⟩ := read_of_not_isFinite infinite
  · rw [nan]
    rfl
  · rw [infinity]
    cases negative <;> rfl

/-- A number is written as a numeral that has this number as its value. -/
def IsReadBack (x : Float) : Prop := ∃ n, Numeral.ofFloat? x = some n ∧ n.toFloat? = some x

theorem float?_ofFloat (readBack : IsReadBack x) : (JsonValue.ofFloat x).float? = some x := by
  obtain ⟨n, written, read⟩ := readBack
  rw [JsonValue.ofFloat, written]
  exact read

/-- What is not finite is not written as a number. -/
theorem float?_ofFloat_eq_none (infinite : Scalar.isFinite x = false) :
    (JsonValue.ofFloat x).float? = none := by
  rw [JsonValue.ofFloat, Numeral.ofFloat?_eq_none infinite]
  rfl

theorem wellFormed_ofFloat (x : Float) : (JsonValue.ofFloat x).WellFormed := by
  cases written : Numeral.ofFloat? x with
  | none =>
    rw [JsonValue.ofFloat, written]
    exact .null
  | some n =>
    rw [JsonValue.ofFloat, written]
    rw [Numeral.ofFloat?] at written
    split at written
    next read =>
      cases written
      exact .number (Numeral.wellFormed_of_read read)
    next => cases written

end Numbers

/-! ## Points -/

section Points

variable {x : Float} {p : Point3 Float} {ps : List (Point3 Float)}

def Point3.coordinates {α : Type} (p : Point3 α) : List α := [p.x, p.y, p.z]

theorem Point3.ofJson?_toJson (readBack : ∀ x ∈ p.coordinates, IsReadBack x) :
    ofJson? p.toJson = some p := by
  have x := float?_ofFloat (readBack p.x (by simp [coordinates]))
  have y := float?_ofFloat (readBack p.y (by simp [coordinates]))
  have z := float?_ofFloat (readBack p.z (by simp [coordinates]))
  simp [ofJson?, toJson, x, y, z]

theorem Point3.ofJson?_toJson_eq_none (part : x ∈ p.coordinates)
    (infinite : Scalar.isFinite x = false) : ofJson? p.toJson = none := by
  have refused := float?_ofFloat_eq_none infinite
  simp only [coordinates, List.mem_cons, List.not_mem_nil, or_false] at part
  obtain rfl | rfl | rfl := part <;> simp [ofJson?, toJson, refused]

theorem Point3.wellFormed_toJson (p : Point3 Float) : p.toJson.WellFormed := by
  refine .array ?_
  intro v part
  simp only [List.mem_cons, List.not_mem_nil, or_false] at part
  obtain rfl | rfl | rfl := part <;> exact wellFormed_ofFloat _

theorem list?_map_toJson (readBack : ∀ p ∈ ps, ∀ x ∈ p.coordinates, IsReadBack x) :
    (JsonValue.array (ps.map Point3.toJson)).list? Point3.ofJson? = some ps := by
  rw [JsonValue.list?]
  induction ps with
  | nil => rfl
  | cons p ps ih =>
    obtain ⟨first, others⟩ := List.forall_mem_cons.mp readBack
    rw [List.map_cons, List.mapM_cons, Point3.ofJson?_toJson first, ih others]
    rfl

theorem list?_map_toJson_eq_none (member : p ∈ ps) (part : x ∈ p.coordinates)
    (infinite : Scalar.isFinite x = false) :
    (JsonValue.array (ps.map Point3.toJson)).list? Point3.ofJson? = none := by
  rw [JsonValue.list?]
  induction ps with
  | nil => cases member
  | cons first ps ih =>
    rw [List.map_cons, List.mapM_cons]
    obtain rfl | later := List.mem_cons.mp member
    · rw [Point3.ofJson?_toJson_eq_none part infinite]
      rfl
    · rw [ih later]
      cases Point3.ofJson? first.toJson <;> rfl

theorem wellFormed_map_toJson (ps : List (Point3 Float)) :
    (JsonValue.array (ps.map Point3.toJson)).WellFormed :=
  .array (List.forall_mem_map.mpr fun p _ => p.wellFormed_toJson)

end Points

/-! ## Frames -/

namespace RecordedFrame

variable {x : Float} {frame : RecordedFrame Float}

def points {α : Type} (frame : RecordedFrame α) : List (Point3 α) :=
  frame.face.elim [] Face.points ++ frame.mesh.getD []

def coordinates {α : Type} (frame : RecordedFrame α) : List α :=
  frame.points.flatMap Point3.coordinates

/-- The two members of a frame are read separately, where an absent one stands for nothing. -/
theorem ofJson?_toJson_eq (frame : RecordedFrame Float) :
    ofJson? frame.toJson =
      (frame.face.elim (some none) fun face => (Face.ofJson? face.toJson).map some).bind fun face =>
        (frame.mesh.elim (some none) fun mesh =>
          ((JsonValue.array (mesh.map Point3.toJson)).list? Point3.ofJson?).map some).map fun mesh =>
            ⟨face, mesh⟩ := by
  obtain ⟨_ | face, _ | mesh⟩ := frame
  · rfl
  · simp [toJson, JsonValue.ofMembers, ofJson?, JsonValue.member?, JsonValue.nullable?, meshOfJson?,
      Option.map_eq_bind]
  · simp [toJson, JsonValue.ofMembers, ofJson?, JsonValue.member?, JsonValue.nullable?, Face.toJson]
  · simp [toJson, JsonValue.ofMembers, ofJson?, JsonValue.member?, JsonValue.nullable?, meshOfJson?,
      Face.toJson, Option.map_eq_bind]

theorem ofJson?_toJson (readBack : ∀ x ∈ frame.coordinates, IsReadBack x) :
    ofJson? frame.toJson = some frame := by
  rw [ofJson?_toJson_eq]
  obtain ⟨face, mesh⟩ := frame
  -- each of both parts may be absent, and is then read as absent
  have facePart : (face.elim (some none) fun face => (Face.ofJson? face.toJson).map some) =
      some face := by
    cases face with
    | none => rfl
    | some face =>
      have points : (Face.toJson face).list? Point3.ofJson? = some face.points :=
        list?_map_toJson fun p member x part => readBack x (List.mem_flatMap.mpr
          ⟨p, List.mem_append_left _ member, part⟩)
      rw [Option.elim_some, Face.ofJson?, points]
      rfl
  have meshPart : (mesh.elim (some none) fun mesh =>
      ((JsonValue.array (mesh.map Point3.toJson)).list? Point3.ofJson?).map some) = some mesh := by
    cases mesh with
    | none => rfl
    | some mesh =>
      rw [Option.elim_some, list?_map_toJson]
      · rfl
      · exact fun p member x part => readBack x (List.mem_flatMap.mpr
          ⟨p, List.mem_append_right _ member, part⟩)
  rw [facePart, meshPart]
  rfl

/-- One coordinate that is not finite is enough for a frame to be refused. -/
theorem ofJson?_toJson_eq_none (part : x ∈ frame.coordinates)
    (infinite : Scalar.isFinite x = false) : ofJson? frame.toJson = none := by
  rw [ofJson?_toJson_eq]
  obtain ⟨face, mesh⟩ := frame
  obtain ⟨p, member, ofPoint⟩ := List.mem_flatMap.mp part
  obtain ofFace | ofMesh := List.mem_append.mp member
  -- a face that is refused ends the reading, and so does a mesh behind any face
  · cases face with
    | none => cases ofFace
    | some face =>
      have refused : (Face.toJson face).list? Point3.ofJson? = none :=
        list?_map_toJson_eq_none ofFace ofPoint infinite
      rw [Option.elim_some, Face.ofJson?, refused]
      rfl
  · cases mesh with
    | none => cases ofMesh
    | some mesh =>
      have refused : (JsonValue.array (mesh.map Point3.toJson)).list? Point3.ofJson? = none :=
        list?_map_toJson_eq_none ofMesh ofPoint infinite
      rw [Option.elim_some, refused]
      exact Option.bind_fun_none _

/-- Every frame is written as a value that can be read, even one that is then refused. -/
theorem wellFormed_toJson (frame : RecordedFrame Float) : frame.toJson.WellFormed := by
  have face : (frame.face.elim JsonValue.null Face.toJson).WellFormed := by
    cases frame.face with
    | none => exact .null
    | some face => exact wellFormed_map_toJson face.points
  refine .object ?_ ?_
  · simp
  · rw [List.forall_mem_map, List.forall_mem_cons]
    refine ⟨face, ?_⟩
    cases frame.mesh with
    | none => exact nofun
    | some mesh => simpa using wellFormed_map_toJson mesh

end RecordedFrame

end DriverMonitor
