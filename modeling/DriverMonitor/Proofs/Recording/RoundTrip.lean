import DriverMonitor.Proofs.Recording.Frames
import DriverMonitor.Proofs.Recording.Lines

/-! # Recording frames and replaying them

Frames are recorded one on each line. What is written for a frame holds no control character, so the
lines of the file are the lines of the frames, and a line is read as the frame that it was written for
or, if one of its coordinates is no finite number, not at all. `recorded_frames_replayed` says what every
call of the recording gives.
-/

namespace DriverMonitor

/-! ## Lines of a recording -/

section Texts

variable {text : String} {texts : List String} {b : UInt8}

/-- The bytes of a text are control characters only where its characters are. -/
theorem le_of_mem_utf8 (printed : JsonValue.Printed text.toList) (inside : b ∈ Text.utf8 text) :
    0x20 ≤ b.toNat := by
  rw [Text.utf8_eq_flatMap] at inside
  obtain ⟨c, member, inside⟩ := List.mem_flatMap.mp inside
  have least : 0x20 ≤ c.val.toNat := printed c member
  simp only [String.utf8EncodeChar] at inside
  split at inside
  next ascii =>
    rw [List.mem_singleton] at inside
    rw [inside, UInt8.toNat_ofNat']
    omega
  -- every byte of a longer encoding is at least 0x80
  next =>
    split at inside
    next =>
      simp only [List.mem_cons, List.not_mem_nil, or_false] at inside
      obtain rfl | rfl := inside <;> rw [UInt8.toNat_ofNat'] <;> omega
    next =>
      split at inside
      next =>
        simp only [List.mem_cons, List.not_mem_nil, or_false] at inside
        obtain rfl | rfl | rfl := inside <;> rw [UInt8.toNat_ofNat'] <;> omega
      next =>
        simp only [List.mem_cons, List.not_mem_nil, or_false] at inside
        obtain rfl | rfl | rfl | rfl := inside <;> rw [UInt8.toNat_ofNat'] <;> omega

theorem not_mem_utf8 (printed : JsonValue.Printed text.toList) (control : b.toNat < 0x20) :
    b ∉ Text.utf8 text := by
  intro inside
  have least := le_of_mem_utf8 printed inside
  omega

theorem utf8_empty : Text.utf8 "" = [] := (Text.utf8_eq_flatMap "").trans rfl

theorem utf8_feed : Text.utf8 "\n" = [0x0a] := (Text.utf8_eq_flatMap "\n").trans rfl

theorem utf8_ne_nil (nonempty : text ≠ "") : Text.utf8 text ≠ [] := by
  intro empty
  have same : Text.utf8 text = Text.utf8 "" := empty.trans utf8_empty.symm
  exact nonempty (Option.some.inj
    ((Text.ofUtf8?_eq_some_iff.mpr rfl).symm.trans (Text.ofUtf8?_eq_some_iff.mpr same)))

/-- Texts without control characters, joined by line feeds, are the lines of a file. -/
theorem splitLines_intercalate
    (lines : ∀ text ∈ texts, text ≠ "" ∧ JsonValue.Printed text.toList) :
    splitLines (Text.utf8 ("\n".intercalate texts)) = texts.map Text.utf8 := by
  refine (IsLines.eq_splitLines ?_).symm
  induction texts with
  | nil =>
    rw [String.intercalate_nil, utf8_empty]
    exact .nil
  | cons text texts ih =>
    obtain ⟨⟨nonempty, printed⟩, others⟩ := List.forall_mem_cons.mp lines
    have feedless : 0x0a ∉ Text.utf8 text := not_mem_utf8 printed (by decide)
    cases texts with
    | nil =>
      -- the last line ends with the file
      rw [String.intercalate_singleton]
      exact .last (utf8_ne_nil nonempty) feedless
    | cons next texts =>
      have returnless : (Text.utf8 text).getLast? ≠ some 0x0d :=
        fun last => not_mem_utf8 printed (by decide) (List.mem_of_getLast? last)
      rw [String.intercalate_cons_cons, Text.utf8_append, Text.utf8_append, List.append_assoc,
        utf8_feed]
      exact .feed feedless returnless (ih others)

end Texts

/-! ## Frames as lines -/

namespace RecordedFrame

variable (frame : RecordedFrame Float)

theorem printed_render : JsonValue.Printed frame.render.toList := by
  rw [render, JsonValue.render, String.toList_ofList]
  exact JsonValue.printed_of_wellFormed frame.wellFormed_toJson

/-- A frame is written as an object. -/
theorem exists_toList_render : ∃ others, frame.render.toList = '{' :: others := by
  rw [render, JsonValue.render, String.toList_ofList]
  exact ⟨_, rfl⟩

theorem render_ne_empty : frame.render ≠ "" := by
  obtain ⟨others, text⟩ := frame.exists_toList_render
  intro empty
  rw [empty] at text
  cases text

theorem isBlank_render : Text.isBlank frame.render = false := by
  obtain ⟨others, text⟩ := frame.exists_toList_render
  rw [Text.isBlank, text]
  rfl

theorem parse?_render : parse? frame.render = ofJson? frame.toJson := by
  rw [parse?, render, JsonValue.parse?_render frame.wellFormed_toJson, Option.bind_some]

end RecordedFrame

/-! ## Whole recordings -/

namespace Recording

def ofFrames (frames : List (RecordedFrame Float)) : Recording :=
  ofBytes (Text.utf8 ("\n".intercalate (frames.map RecordedFrame.render)))

/-- What a frame gives as a line of a recording. -/
theorem outcome_render (frame : RecordedFrame Float) (number : Nat) :
    givesAnswer (Text.utf8 frame.render) = true ∧ isText (Text.utf8 frame.render) = true ∧
      outcome (Text.utf8 frame.render) number = readLine frame.render number := by
  have text : Text.ofUtf8? (Text.utf8 frame.render) = some frame.render :=
    Text.ofUtf8?_eq_some_iff.mpr rfl
  simp [givesAnswer, isText, outcome, text, frame.isBlank_render]

theorem lineOutcomes_render (frames : List (RecordedFrame Float)) (count : Nat) :
    lineOutcomes (frames.map fun frame => Text.utf8 frame.render) count =
      frames.mapIdx fun n frame => readLine frame.render (count + n + 1) := by
  induction frames generalizing count with
  | nil => rfl
  | cons frame frames ih =>
    obtain ⟨answers, isText, outcome⟩ := outcome_render frame (count + 1)
    have later : (fun n (other : RecordedFrame Float) => readLine other.render (count + 1 + n + 1)) =
        fun n other => readLine other.render (count + (n + 1) + 1) := by
      funext n other
      congr 1
      omega
    rw [List.map_cons, lineOutcomes, answers, isText, outcome, Bool.toNat_true, ih, later,
      List.mapIdx_cons]
    rfl

/-- Each frame gives one answer, and after the last of them the stream has ended. -/
theorem answer_ofFrames (frames : List (RecordedFrame Float)) (n : Nat) :
    (ofFrames frames).answer n =
      (frames[n]?.map fun frame => readLine frame.render (n + 1)).getD (.ok .endOfStream) := by
  have lines : splitLines (Text.utf8 ("\n".intercalate (frames.map RecordedFrame.render))) =
      frames.map fun frame => Text.utf8 frame.render := by
    rw [splitLines_intercalate, List.map_map]
    · rfl
    · exact List.forall_mem_map.mpr fun frame _ => ⟨frame.render_ne_empty, frame.printed_render⟩
  have outcomes : (ofFrames frames).outcomes =
      frames.mapIdx fun n frame => readLine frame.render (0 + n + 1) := by
    rw [← lineOutcomes_render, ← lines]
    rfl
  rw [answer_eq, outcomes, List.getElem?_mapIdx]
  simp only [Nat.zero_add]

end Recording

/-! ## Meshes -/

namespace Mesh

variable {mesh : Array (Point3 Float)}

theorem face_of_short (short : mesh.size < meshSize) :
    face mesh = .error (.extraction (.shortMesh mesh.size)) := by
  rw [face, pick, if_pos short]
  rfl

/-- All landmarks lie within a mesh that is long enough. -/
theorem exists_face (long : meshSize ≤ mesh.size) : ∃ f, face mesh = .ok f := by
  have inside : ∀ i ∈ landmarkIndices, i < mesh.size := by
    intro i member
    have bound : ∀ i ∈ landmarkIndices, i < meshSize := by decide
    exact Nat.lt_of_lt_of_le (bound i member) long
  simp only [landmarkIndices, List.forall_mem_cons] at inside
  rw [face, pick, if_neg (Nat.not_lt.mpr long)]
  -- eighteen points are picked, as many as a face has
  simp [landmarkIndices, List.mapM_cons, inside]
  exact ⟨_, rfl⟩

end Mesh

/-! ## What recorded frames give -/

namespace Recording

variable {frames : List (RecordedFrame Float)} {frame : RecordedFrame Float} {n : Nat}

theorem answer_of_frame (found : frames[n]? = some frame) :
    (ofFrames frames).answer n = readLine frame.render (n + 1) := by
  rw [answer_ofFrames, found]
  rfl

theorem readLine_render {number : Nat} (readBack : ∀ x ∈ frame.coordinates, IsReadBack x) :
    readLine frame.render number = frame.extraction := by
  rw [readLine, frame.parse?_render, RecordedFrame.ofJson?_toJson readBack]

theorem readLine_render_of_not_isFinite {number : Nat} {x : Float} (part : x ∈ frame.coordinates)
    (infinite : Scalar.isFinite x = false) :
    readLine frame.render number = .error (.extraction (.unreadableLine number)) := by
  rw [readLine, frame.parse?_render, RecordedFrame.ofJson?_toJson_eq_none part infinite]

def markedPoint : Point3 Float := ⟨0.5, -0.125, 1e-7⟩

def markedFace : Face Float :=
  let lid : Eyelid Float :=
    ⟨markedPoint, markedPoint, markedPoint, markedPoint, markedPoint, markedPoint⟩
  ⟨markedPoint, markedPoint, markedPoint, markedPoint, lid, lid, markedPoint, markedPoint⟩

/-- A face and a mesh together, a mesh that is too short, a face without a nose in front of a mesh, a
mesh, and nothing. -/
def mixedFrames : List (RecordedFrame Float) :=
  [{ face := some markedFace, mesh := some [markedPoint] },
    { mesh := some [markedPoint] },
    { face := some { markedFace with noseTip := ⟨0.5, 0.0 / 0.0, 1e-7⟩ }, mesh := some [markedPoint] },
    { mesh := some (List.replicate meshSize markedPoint) },
    {}]

theorem finite_and_readBack_of_points {k : Nat} (points : frame.points = List.replicate k markedPoint) :
    (∀ x ∈ frame.coordinates, Scalar.isFinite x = true) ∧
      ∀ x ∈ frame.coordinates, Scalar.isFinite x = true → IsReadBack x := by
  have isReadBack {x : Float} (read : (Numeral.ofFloat? x).bind Numeral.toFloat? = some x) :
      IsReadBack x := Option.bind_eq_some_iff.mp read
  have marked : ∀ x ∈ frame.coordinates, Scalar.isFinite x = true ∧ IsReadBack x := by
    intro x part
    obtain ⟨p, member, part⟩ := List.mem_flatMap.mp part
    rw [points] at member
    rw [List.eq_of_mem_replicate member] at part
    simp only [Point3.coordinates, List.mem_cons, List.not_mem_nil, or_false] at part
    obtain rfl | rfl | rfl := part
    · exact ⟨by decide +kernel, isReadBack (by decide +kernel)⟩
    · exact ⟨by decide +kernel, isReadBack (by decide +kernel)⟩
    · exact ⟨by decide +kernel, isReadBack (by decide +kernel)⟩
  exact ⟨fun x part => (marked x part).1, fun x part _ => (marked x part).2⟩

/-- Recorded frames give their answers in order, and then the stream has ended for good. What a frame
gives depends on the other frames only by its place: a coordinate that is no finite number costs the
frame that holds it, and a mesh counts where there is no face. That the finite coordinates of the frame
are read back as they are written is assumed, since the nearest number is not always found. -/
theorem recorded_frames_replayed (frames : List (RecordedFrame Float)) :
    let r := ofFrames frames
    (∀ n frame, frames[n]? = some frame →
      ((∃ x ∈ frame.coordinates, Scalar.isFinite x = false) →
        r.answer n = .error (.extraction (.unreadableLine (n + 1)))) ∧
      ((∀ x ∈ frame.coordinates, Scalar.isFinite x = true) →
        (∀ x ∈ frame.coordinates, Scalar.isFinite x = true → IsReadBack x) →
        (frame.face = none → frame.mesh = none → r.answer n = .ok .noFace) ∧
        (∀ face, frame.face = some face → r.answer n = .ok (.face face)) ∧
        ∀ mesh, frame.face = none → frame.mesh = some mesh →
          (meshSize ≤ mesh.length →
            ∃ face, Mesh.face mesh.toArray = .ok face ∧ r.answer n = .ok (.face face)) ∧
          (mesh.length < meshSize →
            r.answer n = .error (.extraction (.shortMesh mesh.length))))) ∧
    ∀ n, frames.length ≤ n → r.answer n = .ok .endOfStream := by
  intro r
  constructor
  · intro n frame found
    have answer : r.answer n = readLine frame.render (n + 1) := answer_of_frame found
    constructor
    · rintro ⟨x, part, infinite⟩
      rw [answer, readLine_render_of_not_isFinite part infinite]
    · intro finite readBack
      have given : r.answer n = frame.extraction := by
        rw [answer, readLine_render fun x part => readBack x part (finite x part)]
      obtain ⟨face, mesh⟩ := frame
      refine ⟨?_, ?_, ?_⟩
      · rintro rfl rfl
        exact given
      · rintro face rfl
        exact given
      · rintro mesh rfl rfl
        -- only now is the mesh looked at
        change r.answer n = (Mesh.face mesh.toArray).map .face at given
        constructor
        · intro long
          obtain ⟨face, found⟩ := Mesh.exists_face long
          rw [found] at given
          exact ⟨face, found, given⟩
        · intro short
          rw [Mesh.face_of_short short] at given
          exact given
  · intro n beyond
    rw [answer_ofFrames, List.getElem?_eq_none beyond]
    rfl

/-- Of the frames only the one without a nose is lost, and those behind it are not. -/
theorem recorded_frames_replayed_mixed :
    let r := ofFrames mixedFrames
    (∀ frame ∈ mixedFrames.eraseIdx 2, (∀ x ∈ frame.coordinates, Scalar.isFinite x = true) ∧
        ∀ x ∈ frame.coordinates, Scalar.isFinite x = true → IsReadBack x) ∧
      (∃ frame, mixedFrames[2]? = some frame ∧ ∃ x ∈ frame.coordinates, Scalar.isFinite x = false) ∧
      r.answer 0 = .ok (.face markedFace) ∧
      r.answer 1 = .error (.extraction (.shortMesh 1)) ∧
      r.answer 2 = .error (.extraction (.unreadableLine 3)) ∧
      (∃ face, Mesh.face (List.replicate meshSize markedPoint).toArray = .ok face ∧
        r.answer 3 = .ok (.face face)) ∧
      r.answer 4 = .ok .noFace ∧ r.answer 5 = .ok .endOfStream := by
  intro r
  have sound : ∀ frame ∈ mixedFrames.eraseIdx 2,
      (∀ x ∈ frame.coordinates, Scalar.isFinite x = true) ∧
        ∀ x ∈ frame.coordinates, Scalar.isFinite x = true → IsReadBack x := by
    intro frame member
    simp only [mixedFrames, List.eraseIdx_cons_succ, List.eraseIdx_cons_zero, List.mem_cons,
      List.not_mem_nil, or_false] at member
    obtain rfl | rfl | rfl | rfl := member
    · exact finite_and_readBack_of_points (k := 19) rfl
    · exact finite_and_readBack_of_points (k := 1) rfl
    · exact finite_and_readBack_of_points (k := meshSize) rfl
    · exact finite_and_readBack_of_points (k := 0) rfl
  have noseless : ∃ frame, mixedFrames[2]? = some frame ∧
      ∃ x ∈ frame.coordinates, Scalar.isFinite x = false :=
    ⟨_, rfl, 0.0 / 0.0, List.mem_cons_of_mem _ List.mem_cons_self, by decide +kernel⟩
  -- one frame of each kind; the third is the one without a nose
  have each := sound
  simp only [mixedFrames, List.eraseIdx_cons_succ, List.eraseIdx_cons_zero,
    List.forall_mem_cons] at each
  obtain ⟨whole, short, long, empty, -⟩ := each
  obtain ⟨answers, ended⟩ := recorded_frames_replayed mixedFrames
  have first := ((answers 0 _ rfl).2 whole.1 whole.2).2.1 markedFace rfl
  have second := (((answers 1 _ rfl).2 short.1 short.2).2.2 _ rfl rfl).2 (by decide)
  obtain ⟨frame, found, infinite⟩ := noseless
  have third := (answers 2 frame found).1 infinite
  have fourth := (((answers 3 _ rfl).2 long.1 long.2).2.2 _ rfl rfl).1
    (Nat.le_of_eq List.length_replicate.symm)
  have fifth := ((answers 4 _ rfl).2 empty.1 empty.2).1 rfl rfl
  exact ⟨sound, ⟨frame, found, infinite⟩, first, second, third, fourth, fifth,
    ended 5 (Nat.le_refl 5)⟩

end Recording

end DriverMonitor
