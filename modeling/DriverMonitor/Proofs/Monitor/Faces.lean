import DriverMonitor.Proofs.Monitor.Events

/-! # Which faces are estimated

Faces may be overwritten in the landmark cell before inference looks at it, but none is estimated
twice or out of order, and the last one is not lost: inference reads the stop flag before it looks, so
a tick that saw the flag set looks at a cell that capture has finished with.

The invariant has two parts. `Tracks` compares the faces that inference has taken from the cell with
those that were put there: while its version is behind, it lacks at least the last one, and otherwise
it has the last one. `Closing` holds as long as nobody but the loops sets the flag: a tick that saw it
set comes after the end of capture, and its look was up to date.
-/

namespace DriverMonitor

variable {σ τ α : Type}

/-! ## Faces taken from the cell -/

def CapturePhase.face : CapturePhase α → List (Face α)
  | .publishing face => [face]
  | _ => []

def InferencePhase.face : InferencePhase α → List (Face α)
  | .estimating _ face => [face]
  | _ => []

/-- The face that a monitor holds before a run, if it was ever published. -/
def Monitor.waiting (m : Monitor τ α) : List (Face α) :=
  if 0 < m.landmarks.version then m.landmarks.value.toList else []

/-- Faces were taken in the order in which they were put, and the last one put is the last one taken. -/
structure CaughtUp (put taken : List (Face α)) : Prop where
  last : taken.getLast? = put.getLast?
  earlier : taken.dropLast.Sublist put.dropLast

theorem CaughtUp.ends {earlier taken : List (Face α)} {last : Face α}
    (caught : CaughtUp (earlier ++ [last]) taken) :
    ∃ before, taken = before ++ [last] ∧ before.Sublist earlier := by
  have newest := caught.last
  have older := caught.earlier
  rw [List.getLast?_concat] at newest
  obtain ⟨before, rfl⟩ := List.getLast?_eq_some_iff.mp newest
  rw [List.dropLast_concat, List.dropLast_concat] at older
  exact ⟨before, rfl, older⟩

/-- What was taken are some of the faces that were put, in their order. -/
theorem CaughtUp.sublist {put taken : List (Face α)} (caught : CaughtUp put taken) :
    taken.Sublist put := by
  cases List.eq_nil_or_concat put with
  | inl empty =>
    subst empty
    have noneTaken : taken = [] := List.getLast?_eq_none_iff.mp caught.last
    exact noneTaken ▸ List.nil_sublist []
  | inr concat =>
    obtain ⟨earlier, last, rfl⟩ := concat
    rw [List.concat_eq_append] at caught ⊢
    obtain ⟨before, rfl, older⟩ := caught.ends
    exact older.append (List.Sublist.refl [last])

structure Tracks (put taken : List (Face α)) (cell : Cell (Option (Face α))) (seen : Nat) : Prop where
  newest : put.getLast? = if 0 < cell.version then cell.value else none
  seenLe : seen ≤ cell.version
  behind : seen < cell.version → taken.Sublist put.dropLast
  current : seen = cell.version → CaughtUp put taken

namespace Tracks

variable {put taken : List (Face α)} {cell : Cell (Option (Face α))} {seen : Nat}

theorem sublist (tracks : Tracks put taken cell seen) : taken.Sublist put := by
  obtain behind | current := Nat.lt_or_eq_of_le tracks.seenLe
  · exact (tracks.behind behind).trans (List.dropLast_sublist put)
  · exact (tracks.current current).sublist

theorem publish (tracks : Tracks put taken cell seen) (face : Face α) :
    Tracks (put ++ [face]) taken (cell.publish (some face)) seen := by
  have seenLe := tracks.seenLe
  refine ⟨?_, ?_, ?_, ?_⟩
  · rw [List.getLast?_concat, Cell.publish_version, Cell.publish_value, if_pos (Nat.succ_pos _)]
  · rw [Cell.publish_version]
    omega
  · intro _
    rw [List.dropLast_concat]
    exact tracks.sublist
  · intro upToDate
    rw [Cell.publish_version] at upToDate
    omega

/-- A look at a newer version takes the last face that was put, and has caught up with it. -/
theorem look_face (tracks : Tracks put taken cell seen) {face : Face α} (fresh : seen < cell.version)
    (content : cell.value = some face) : Tracks put (taken ++ [face]) cell cell.version := by
  have newest := tracks.newest
  refine ⟨newest, Nat.le_refl _, fun behind => absurd behind (Nat.lt_irrefl _), fun _ => ⟨?_, ?_⟩⟩
  · rw [List.getLast?_concat, newest, if_pos (Nat.zero_lt_of_lt fresh), content]
  · rw [List.dropLast_concat]
    exact tracks.behind fresh

theorem look_noFace (tracks : Tracks put taken cell seen) (content : cell.value = none) :
    Tracks put taken cell cell.version := by
  have newest := tracks.newest
  -- a cell without a face is one in which none was put, so there is none to catch up with
  have empty : put = [] := by
    rw [content, ite_self] at newest
    exact List.getLast?_eq_none_iff.mp newest
  have noneTaken : taken = [] := List.sublist_nil.mp (empty ▸ tracks.sublist)
  refine ⟨newest, Nat.le_refl _, fun behind => absurd behind (Nat.lt_irrefl _), fun _ => ?_⟩
  rw [empty, noneTaken]
  exact ⟨rfl, List.Sublist.refl _⟩

end Tracks

/-- What a run has shown agrees with its state: the faces that there were are those put into the cell
and the one that capture still holds. -/
structure Agrees (waiting : List (Face α)) (past : List (RunEvent α)) (s : RunState σ τ α)
    (put : List (Face α)) : Prop where
  available : waiting ++ capturedFaces past = put ++ s.capture.face
  tracks : Tracks put (estimatedFaces past ++ s.inference.face) s.landmarks s.seen

theorem agrees_start (m : Monitor τ α) (source : σ) :
    Agrees m.waiting [] (m.start source) m.waiting := by
  have newest : m.waiting.getLast? = if 0 < m.landmarks.version then m.landmarks.value else none := by
    rw [Monitor.waiting]
    split
    · cases m.landmarks.value <;> rfl
    · rfl
  refine ⟨rfl, newest, Nat.zero_le _, fun _ => List.nil_sublist _, ?_⟩
  intro unpublished
  have empty : m.waiting = [] := by
    rw [Monitor.waiting, if_neg]
    intro published
    exact absurd unpublished (Nat.ne_of_lt published)
  rw [empty]
  exact ⟨rfl, List.Sublist.refl _⟩

namespace Agrees

variable {waiting put : List (Face α)} {past : List (RunEvent α)} {event : Option (RunEvent α)}
variable {s next : RunState σ τ α}

theorem keeps_available (agrees : Agrees waiting past s put)
    (captured : capturedFaces event.toList = []) (held : next.capture.face = s.capture.face) :
    waiting ++ capturedFaces (past ++ event.toList) = put ++ next.capture.face := by
  rw [capturedFaces_append, captured, List.append_nil, held]
  exact agrees.available

theorem keeps_tracks (agrees : Agrees waiting past s put)
    (taken : estimatedFaces event.toList ++ next.inference.face = s.inference.face)
    (landmarks : next.landmarks = s.landmarks) (seen : next.seen = s.seen) :
    Tracks put (estimatedFaces (past ++ event.toList) ++ next.inference.face) next.landmarks
      next.seen := by
  rw [estimatedFaces_append, List.append_assoc, taken, landmarks, seen]
  exact agrees.tracks

end Agrees

theorem face_afterTick (last : Bool) : (InferencePhase.afterTick last : InferencePhase α).face = [] := by
  cases last <;> rfl

/-- A face that is published is one that capture held, and one that is taken is the last one put. -/
theorem agrees_move {setup : Setup σ τ α} {waiting put : List (Face α)} {past : List (RunEvent α)}
    {party : Party} {event : Option (RunEvent α)} {s next : RunState σ τ α}
    (move : Move setup s party event next) (agrees : Agrees waiting past s put) :
    ∃ put, Agrees waiting (past ++ event.toList) next put := by
  have available := agrees.available
  have tracks := agrees.tracks
  cases move with
  | @face face source phase answer =>
    refine ⟨put, ?_, agrees.keeps_tracks rfl rfl rfl⟩
    have captured : capturedFaces [.asked (.gives (.ok (.face face)))] = [face] := rfl
    -- capture held no face while it asked for one
    have published : waiting ++ capturedFaces past = put := by
      rw [available, phase]
      exact List.append_nil put
    rw [Option.toList_some, capturedFaces_append, captured, ← List.append_assoc, published]
    rfl
  | @publishFace face phase =>
    rw [phase] at available
    -- the face that capture held is now one that was put
    refine ⟨put ++ [face], ?_, ?_⟩
    · rw [Option.toList_none, List.append_nil, available]
      exact (List.append_nil _).symm
    · rw [Option.toList_none, List.append_nil]
      exact tracks.publish face
  | @seesFace last face phase fresh content =>
    rw [phase] at tracks
    refine ⟨put, agrees.keeps_available rfl rfl, ?_⟩
    have looked := tracks.look_face fresh content
    rw [List.append_assoc] at looked
    rw [estimatedFaces_append, List.append_assoc]
    exact looked
  | seesNoFace phase fresh content =>
    rw [phase] at tracks
    refine ⟨put, agrees.keeps_available rfl rfl, ?_⟩
    rw [estimatedFaces_append, face_afterTick, List.append_assoc]
    exact tracks.look_noFace content
  | captureStops phase _ | captureAsks phase _ | noFace phase _ | streamEnds phase _
  | sourceFails phase _ | sourceCrashes phase _ | captureLeaves phase =>
    exact ⟨put, agrees.keeps_available rfl (by rw [phase]; rfl), agrees.keeps_tracks rfl rfl rfl⟩
  | inferenceTests phase | estimates phase _ | estimateCrashes phase _ | publishState phase
  | observerCrashes phase _ | inferenceLeaves phase | inferenceRests phase =>
    exact ⟨put, agrees.keeps_available rfl rfl, agrees.keeps_tracks (by rw [phase]; rfl) rfl rfl⟩
  | seesNothingNew phase _ | showState phase _ =>
    exact ⟨put, agrees.keeps_available rfl rfl,
      agrees.keeps_tracks (by rw [phase]; exact face_afterTick _) rfl rfl⟩
  | @estimateFails last face failure estimator phase verdict =>
    exact ⟨put, agrees.keeps_available rfl rfl,
      agrees.keeps_tracks (by rw [phase]; exact congrArg (face :: ·) (face_afterTick last)) rfl rfl⟩
  | captureRests | stops => exact ⟨put, agrees.keeps_available rfl rfl, agrees.keeps_tracks rfl rfl rfl⟩

/-! ## The last face -/

namespace InferencePhase

/-- Whether inference is in the tick that saw the stop flag set, or has left after it. -/
def isLast : InferencePhase α → Bool
  | .testing => false
  | .looking last | .estimating last _ | .publishing last _ | .observing last _ => last
  | .leaving crashed | .done crashed => !crashed

def hasLooked : InferencePhase α → Bool
  | .testing | .looking _ => false
  | _ => true

theorem isLast_afterTick (last : Bool) : (afterTick last : InferencePhase α).isLast = last := by
  cases last <;> rfl

end InferencePhase

/-- As long as nobody but the loops sets the stop flag: whoever set it is done, the last tick begins
after capture is done, and its look finds the cell as it stays. -/
structure Closing (s : RunState σ τ α) : Prop where
  setBy : s.stopped = true → (∃ crashed, s.capture = .done crashed) ∨
    ∃ crashed, s.inference = .done crashed
  afterCapture : s.inference.isLast = true → ∃ crashed, s.capture = .done crashed
  upToDate : s.inference.isLast = true → s.inference.hasLooked = true →
    s.seen = s.landmarks.version

theorem closing_start (m : Monitor τ α) (source : σ) : Closing (m.start source) :=
  ⟨nofun, nofun, nofun⟩

namespace Closing

variable {s next : RunState σ τ α}

theorem of_capture (closing : Closing s) (busy : ∀ crashed, s.capture ≠ .done crashed)
    (stopped : next.stopped = s.stopped) (inference : next.inference = s.inference) :
    Closing next := by
  -- the last tick begins after the end of capture, so there is none yet
  have notLast : next.inference.isLast ≠ true := by
    rw [inference]
    intro last
    obtain ⟨crashed, captureDone⟩ := closing.afterCapture last
    exact busy crashed captureDone
  refine ⟨?_, fun last => absurd last notLast, fun last => absurd last notLast⟩
  rw [stopped, inference]
  intro set
  cases closing.setBy set with
  | inl captureDone =>
    obtain ⟨crashed, captureDone⟩ := captureDone
    exact absurd captureDone (busy crashed)
  | inr inferenceDone => exact .inr inferenceDone

theorem of_inference (closing : Closing s) (busy : ∀ crashed, s.inference ≠ .done crashed)
    (stopped : next.stopped = s.stopped) (capture : next.capture = s.capture)
    (last : next.inference.isLast = true → s.inference.isLast = true ∨ s.stopped = true)
    (upToDate : next.inference.isLast = true → next.inference.hasLooked = true →
      next.seen = next.landmarks.version) : Closing next := by
  -- inference has not left, so it was capture that set the flag
  have setByCapture : s.stopped = true → ∃ crashed, s.capture = .done crashed := by
    intro set
    cases closing.setBy set with
    | inl captureDone => exact captureDone
    | inr inferenceDone =>
      obtain ⟨crashed, inferenceDone⟩ := inferenceDone
      exact absurd inferenceDone (busy crashed)
  refine ⟨?_, ?_, upToDate⟩
  · rw [stopped, capture]
    exact fun set => .inl (setByCapture set)
  · rw [capture]
    intro isLast
    cases last isLast with
    | inl wasLast => exact closing.afterCapture wasLast
    | inr set => exact setByCapture set

end Closing

/-- A loop sets the flag only as it leaves, and nobody clears it. -/
theorem closing_move {setup : Setup σ τ α} {party : Party} {event : Option (RunEvent α)}
    {s next : RunState σ τ α} (inside : party ≠ .stopper) (seenLe : s.seen ≤ s.landmarks.version)
    (move : Move setup s party event next) (closing : Closing s) : Closing next := by
  have upToDate := closing.upToDate
  cases move with
  | stops => exact absurd rfl inside
  | captureRests | inferenceRests => exact closing
  | captureLeaves phase => exact ⟨fun _ => .inl ⟨_, rfl⟩, fun _ => ⟨_, rfl⟩, upToDate⟩
  | captureStops phase _ | captureAsks phase _ | face phase _ | noFace phase _ | streamEnds phase _
  | sourceFails phase _ | sourceCrashes phase _ | publishFace phase =>
    exact closing.of_capture (by rw [phase]; exact nofun) rfl rfl
  | inferenceLeaves phase =>
    have afterCapture := closing.afterCapture
    rw [phase] at afterCapture upToDate
    exact ⟨fun _ => .inr ⟨_, rfl⟩, afterCapture, upToDate⟩
  | inferenceTests phase =>
    -- the tick is the last one exactly if the flag is set
    exact closing.of_inference (by rw [phase]; exact nofun) rfl rfl .inr nofun
  | seesNothingNew phase old =>
    refine closing.of_inference (by rw [phase]; exact nofun) rfl rfl ?_ ?_
    · rw [phase, InferencePhase.isLast_afterTick]
      exact .inl
    -- no newer version than the one seen means that it is the current one
    · exact fun _ _ => Nat.le_antisymm seenLe old
  | seesNoFace phase _ _ =>
    refine closing.of_inference (by rw [phase]; exact nofun) rfl rfl ?_ fun _ _ => rfl
    rw [phase, InferencePhase.isLast_afterTick]
    exact .inl
  | seesFace phase _ _ =>
    refine closing.of_inference (by rw [phase]; exact nofun) rfl rfl ?_ fun _ _ => rfl
    rw [phase]
    exact .inl
  | estimates phase _ | publishState phase =>
    rw [phase] at upToDate
    exact closing.of_inference (by rw [phase]; exact nofun) rfl rfl (by rw [phase]; exact .inl)
      fun last _ => upToDate last rfl
  | estimateFails phase _ | showState phase _ =>
    rw [phase] at upToDate
    refine closing.of_inference (by rw [phase]; exact nofun) rfl rfl ?_ ?_
    · rw [phase, InferencePhase.isLast_afterTick]
      exact .inl
    · rw [InferencePhase.isLast_afterTick]
      exact fun last _ => upToDate last rfl
  | estimateCrashes phase _ | observerCrashes phase _ =>
    -- a tick that crashes does not count as the last one
    exact closing.of_inference (by rw [phase]; exact nofun) rfl rfl nofun nofun

/-! ## Runs -/

/-- In a run that finished, neither loop has crashed. -/
theorem RunState.done_of_finished {s : RunState σ τ α} {captured : CaptureCounts}
    {inferred : InferenceCounts} (finished : s.ending? = some (.finished captured inferred)) :
    s.capture = .done false ∧ s.inference = .done false := by
  unfold ending? at finished
  split at finished
  next => cases finished
  next => cases finished
  next captureDone inferenceDone => exact ⟨captureDone, inferenceDone⟩
  next => cases finished

theorem exists_agrees (setup : Setup σ τ α) (m : Monitor τ α) (source : σ) (schedule : List Party) :
    ∃ put, Agrees m.waiting (events setup (m.start source) schedule)
      (execute setup (m.start source) schedule) put :=
  execute_keeps (fun past s => ∃ put, Agrees m.waiting past s put)
    (fun move ⟨_, agrees⟩ => agrees_move move agrees) ⟨_, agrees_start m source⟩ schedule

theorem closing_execute (setup : Setup σ τ α) (m : Monitor τ α) (source : σ) {schedule : List Party}
    (inside : .stopper ∉ schedule) : Closing (execute setup (m.start source) schedule) := by
  -- what the loops have seen is needed in each step, so both facts are kept together
  have keeps : ∀ {past s party event next}, party ≠ .stopper → Move setup s party event next →
      (∃ put, Agrees m.waiting past s put) ∧ Closing s →
      (∃ put, Agrees m.waiting (past ++ event.toList) next put) ∧ Closing next := by
    intro past s party event next loop move ⟨⟨put, agrees⟩, closing⟩
    exact ⟨agrees_move move agrees, closing_move loop agrees.tracks.seenLe move closing⟩
  have loops : ∀ party ∈ schedule, party ≠ .stopper := by
    rintro party scheduled rfl
    exact inside scheduled
  have start : (∃ put, Agrees m.waiting [] (m.start source) put) ∧ Closing (m.start source) :=
    ⟨⟨_, agrees_start m source⟩, closing_start m source⟩
  exact (execute_preserves (fun past s => (∃ put, Agrees m.waiting past s put) ∧ Closing s)
    (· ≠ .stopper) keeps loops start).2

/-- The faces that are estimated come in order from the one that waited at the start and those
captured since. If nobody but the loops sets the stop flag, the last of these is among them at the
end. -/
theorem estimated_faces_in_order (setup : Setup σ τ α) (m : Monitor τ α) (source : σ)
    (schedule : List Party) :
    let shown := events setup (m.start source) schedule
    let available := m.waiting ++ capturedFaces shown
    (estimatedFaces shown).Sublist available ∧
      (.stopper ∉ schedule → ∀ captured inferred,
        (execute setup (m.start source) schedule).ending? = some (.finished captured inferred) →
        ∀ earlier last, available = earlier ++ [last] →
          ∃ before, estimatedFaces shown = before ++ [last] ∧ before.Sublist earlier) := by
  intro shown available
  obtain ⟨put, agrees⟩ := exists_agrees setup m source schedule
  have putOrHeld : available = put ++ _ := agrees.available
  have tracks := agrees.tracks
  constructor
  -- what was estimated was put into the cell, and what was put had been captured
  · have taken := (List.sublist_append_left (estimatedFaces shown) _).trans tracks.sublist
    rw [putOrHeld]
    exact taken.trans (List.sublist_append_left put _)
  · intro inside captured inferred finished earlier last split
    obtain ⟨captureDone, inferenceDone⟩ := RunState.done_of_finished finished
    have upToDate := (closing_execute setup m source inside).upToDate
    rw [inferenceDone] at tracks upToDate
    -- the last tick has looked, and what it found was current
    have caught := tracks.current (upToDate rfl rfl)
    have allPut : put = earlier ++ [last] := by
      rw [captureDone, split] at putOrHeld
      exact (putOrHeld.trans (List.append_nil put)).symm
    obtain ⟨before, allTaken, older⟩ := (allPut ▸ caught).ends
    exact ⟨before, (List.append_nil _).symm.trans allTaken, older⟩

/-- A face that waits, one that is overwritten, and one that is published and followed by the stop flag
after inference has read it and before it looks. -/
theorem estimated_faces_in_order_late_stop :
    let face : Nat → Face Nat := fun n =>
      let point : Point3 Nat := ⟨n, n, n⟩
      let eyelid : Eyelid Nat := ⟨point, point, point, point, point, point⟩
      ⟨point, point, point, point, eyelid, eyelid, point, point⟩
    let setup : Setup (List (ScriptStep Nat)) Nat Nat :=
      { source := .script
        estimator := ⟨fun calls _ => (.failed (.degenerateGeometry .nonFiniteLandmarks), calls + 1)⟩ }
    let m : Monitor Nat Nat := { estimator := 0, landmarks := ⟨some (face 0), 1⟩ }
    let script : List (ScriptStep Nat) :=
      [⟨.gives (.ok (.face (face 1))), false⟩, ⟨.gives (.ok (.face (face 2))), false⟩]
    let schedule : List Party := .replicate 3 .inference ++ .replicate 3 .capture ++ [.inference] ++
      .replicate 6 .capture ++ .replicate 5 .inference
    let shown := events setup (m.start script) schedule
    m.waiting ++ capturedFaces shown = [face 0, face 1] ++ [face 2] ∧ .stopper ∉ schedule ∧
      (execute setup (m.start script) schedule).ending? =
        some (.finished ⟨2, 2, 0, 0⟩ ⟨3, 0, 1, 2⟩) ∧
      ∃ before, estimatedFaces shown = before ++ [face 2] ∧ before.Sublist [face 0, face 1] := by
  intro face setup m script schedule shown
  have available : m.waiting ++ capturedFaces shown = [face 0, face 1] ++ [face 2] := by cbv
  have inside : .stopper ∉ schedule := by decide
  have finished : (execute setup (m.start script) schedule).ending? =
      some (.finished ⟨2, 2, 0, 0⟩ ⟨3, 0, 1, 2⟩) := by cbv
  obtain ⟨_, lastEstimated⟩ := estimated_faces_in_order setup m script schedule
  exact ⟨available, inside, finished, lastEstimated inside _ _ finished _ _ available⟩

end DriverMonitor
