import DriverMonitor.Monitor.Lockstep
import DriverMonitor.Proofs.Monitor.Faces

/-! # What a run counts

Frames and ticks are counted on different branches of two loops, and two cells and an observer are
served in between. `CaptureAccount` and `InferenceAccount` carry the balances through every step, with
what a loop has counted and not yet handed on: a face that is not yet published, a tick that has not
come to its end, a state that the observer has yet to see. After a run that nothing has crashed in,
none of these is left.
-/

namespace DriverMonitor

variable {σ τ α : Type}

/-! ## Estimators -/

/-- The estimator of any model of the gaze. It may remember what it has seen, fail, or crash, which is
an answer of `none`; the measured rate may be anything. -/
def Estimator.ofGaze [Scalar α] (kind : GazeModelKind)
    (gaze : τ → Face α → Option (Except Failure (GazeAngle α)) × τ) (rateHz : τ → α) :
    Estimator τ α where
  estimate memory face :=
    if !face.isFinite then (.failed (.degenerateGeometry .nonFiniteLandmarks), memory)
    else
      match gaze memory face with
      | (some (.ok angle), memory) => (.state ⟨angle, .ofFace face, kind, rateHz memory⟩, memory)
      | (some (.error failure), memory) => (.failed failure, memory)
      | (none, memory) => (.crashed, memory)

/-- The estimators of the program have this form. They remember how often they were asked. -/
theorem Estimator.ofModel_eq_ofGaze [Scalar α] (model : GazeModel α) (rateHz : α)
    (crashAt : Option Nat) :
    Estimator.ofModel model rateHz crashAt =
      .ofGaze model.kind
        (fun calls face =>
          (if crashAt = some (calls + 1) then none else some (model.estimate face), calls + 1))
        fun _ => rateHz := by
  rw [ofModel, ofGaze, Estimator.mk.injEq]
  funext calls face
  by_cases finite : face.isFinite
  · by_cases crashes : crashAt = some (calls + 1)
    · simp [finite, crashes]
    · simp only [finite, crashes, DriverState.estimate]
      cases model.estimate face <;> rfl
  · simp [finite]

/-- A state names the model that was used. -/
theorem Estimator.model_of_ofGaze [Scalar α] {kind : GazeModelKind}
    {gaze : τ → Face α → Option (Except Failure (GazeAngle α)) × τ} {rateHz : τ → α}
    {memory later : τ} {face : Face α} {state : DriverState α}
    (estimated : (Estimator.ofGaze kind gaze rateHz).estimate memory face = (.state state, later)) :
    state.model = kind := by
  simp only [ofGaze] at estimated
  split at estimated
  next => cases estimated
  next =>
    split at estimated
    next =>
      cases estimated
      rfl
    next => cases estimated
    next => cases estimated

/-! ## What is under way -/

namespace InferencePhase

/-- Ticks that have neither ended nor led to a state yet. -/
def openTicks : InferencePhase α → Nat
  | .estimating .. | .publishing .. => 1
  | _ => 0

def hasCrashed : InferencePhase α → Bool
  | .leaving crashed | .done crashed => crashed
  | _ => false

def toPublish : InferencePhase α → List (DriverState α)
  | .publishing _ state => [state]
  | _ => []

def toShow : InferencePhase α → List (DriverState α)
  | .observing _ state => [state]
  | _ => []

theorem openTicks_afterTick (last : Bool) : (afterTick last : InferencePhase α).openTicks = 0 := by
  cases last <;> rfl

theorem toPublish_afterTick (last : Bool) : (afterTick last : InferencePhase α).toPublish = [] := by
  cases last <;> rfl

theorem toShow_afterTick (last : Bool) : (afterTick last : InferencePhase α).toShow = [] := by
  cases last <;> rfl

end InferencePhase

/-! ## Capture -/

structure CaptureAccount (m : Monitor τ α) (s : RunState σ τ α) : Prop where
  frames : s.captured.frames = s.captured.faces + s.captured.misses
  faces : s.landmarks.version + s.capture.face.length = m.landmarks.version + s.captured.faces

variable {setup : Setup σ τ α} {m : Monitor τ α} {s next : RunState σ τ α} {party : Party}
variable {past : List (RunEvent α)} {event : Option (RunEvent α)}

theorem CaptureAccount.keeps (account : CaptureAccount m s) (captured : next.captured = s.captured)
    (landmarks : next.landmarks = s.landmarks) (held : next.capture.face = s.capture.face) :
    CaptureAccount m next := by
  refine ⟨?_, ?_⟩
  · rw [captured]
    exact account.frames
  · rw [captured, landmarks, held]
    exact account.faces

/-- A face is counted together with its frame, and published in a later step. -/
theorem CaptureAccount.move (account : CaptureAccount m s) (move : Move setup s party event next) :
    CaptureAccount m next := by
  have frames := account.frames
  have faces := account.faces
  cases move with
  | face phase =>
    rw [phase] at faces
    refine ⟨?_, ?_⟩
    · change s.captured.frames + 1 = s.captured.faces + 1 + s.captured.misses
      omega
    · exact congrArg (· + 1) faces
  | noFace phase =>
    rw [phase] at faces
    exact ⟨congrArg (· + 1) frames, faces⟩
  -- the face that is held back moves into the cell
  | publishFace phase =>
    rw [phase] at faces
    exact ⟨frames, faces⟩
  | sourceFails phase =>
    rw [phase] at faces
    exact ⟨frames, faces⟩
  | captureStops phase | captureAsks phase | streamEnds phase | sourceCrashes phase
  | captureLeaves phase => exact account.keeps rfl rfl (by rw [phase]; rfl)
  | captureRests | stops | inferenceTests | seesNothingNew | seesNoFace | seesFace | estimates
  | estimateFails | estimateCrashes | publishState | showState | observerCrashes
  | inferenceLeaves | inferenceRests => exact account.keeps rfl rfl rfl

/-! ## Inference -/

def publishAll (results : Cell (Option (DriverState α))) (states : List (DriverState α)) :
    Cell (Option (DriverState α)) :=
  states.foldl (fun cell state => cell.publish (some state)) results

/-- Every tick ends in one of three ways, unless it crashes. -/
def TicksAddUp (s : RunState σ τ α) : Prop :=
  s.inference.hasCrashed = false →
    s.inferred.ticks =
      s.inferred.published + s.inferred.idle + s.inferred.failed + s.inference.openTicks

theorem TicksAddUp.balance (account : TicksAddUp s) {phase : InferencePhase α} (underWay : Nat)
    (current : s.inference = phase) (calm : phase.hasCrashed = false)
    (ticks : phase.openTicks = underWay) :
    s.inferred.ticks =
      s.inferred.published + s.inferred.idle + s.inferred.failed + underWay := by
  rw [account (current ▸ calm), current, ticks]

theorem TicksAddUp.of_balance (underWay : Nat) (ticks : s.inference.openTicks = underWay)
    (balance : s.inferred.ticks =
      s.inferred.published + s.inferred.idle + s.inferred.failed + underWay) : TicksAddUp s := by
  intro _
  rw [ticks, balance]

/-- A tick is counted when it looks, and again under one of its ends. -/
theorem TicksAddUp.move (account : TicksAddUp s) (move : Move setup s party event next) :
    TicksAddUp next := by
  cases move with
  | captureStops | captureAsks | face | noFace | streamEnds | sourceFails | sourceCrashes
  | publishFace | captureLeaves | captureRests | inferenceRests | stops => exact account
  -- no tick begins or ends
  | inferenceTests phase | estimates phase | inferenceLeaves phase =>
    rw [TicksAddUp, phase] at account
    exact account
  -- a tick begins and ends with one look
  | seesNothingNew phase | seesNoFace phase =>
    have before := account.balance 0 phase rfl rfl
    refine .of_balance 0 (InferencePhase.openTicks_afterTick _) ?_
    dsimp only
    omega
  -- a tick begins and stays under way
  | seesFace phase =>
    exact .of_balance 1 rfl (congrArg (· + 1) (account.balance 0 phase rfl rfl))
  | estimateFails phase =>
    exact .of_balance 0 (InferencePhase.openTicks_afterTick _) (account.balance 1 phase rfl rfl)
  | publishState phase =>
    have before := account.balance 1 phase rfl rfl
    refine .of_balance 0 rfl ?_
    dsimp only
    omega
  | showState phase =>
    exact .of_balance 0 (InferencePhase.openTicks_afterTick _) (account.balance 0 phase rfl rfl)
  | estimateCrashes | observerCrashes => exact nofun

/-! ## Published states -/

structure StateAccount (m : Monitor τ α) (past : List (RunEvent α)) (s : RunState σ τ α) : Prop where
  published : s.inferred.published = (publishedStates past).length
  results : s.results = publishAll m.results (publishedStates past)
  shown : shownStates past ++ s.inference.toShow = publishedStates past
  observed : s.observed.reverse = shownStates past

/-- A step that neither publishes nor shows a state. -/
theorem StateAccount.keeps (account : StateAccount m past s)
    (publishes : publishedStates event.toList = []) (shows : shownStates event.toList = [])
    (published : next.inferred.published = s.inferred.published) (results : next.results = s.results)
    (toShow : next.inference.toShow = s.inference.toShow) (observed : next.observed = s.observed) :
    StateAccount m (past ++ event.toList) next := by
  refine ⟨?_, ?_, ?_, ?_⟩
  · rw [publishedStates_append, publishes, List.append_nil, published]
    exact account.published
  · rw [publishedStates_append, publishes, List.append_nil, results]
    exact account.results
  · rw [publishedStates_append, publishes, List.append_nil, shownStates_append, shows,
      List.append_nil, toShow]
    exact account.shown
  · rw [shownStates_append, shows, List.append_nil, observed]
    exact account.observed

theorem StateAccount.publish (account : StateAccount m past s) {state : DriverState α} {last : Bool}
    (phase : s.inference = .publishing last state) :
    StateAccount m (past ++ [.published state])
      { s with
        results := s.results.publish (some state)
        inferred := { s.inferred with published := s.inferred.published + 1 }
        inference := .observing last state } := by
  have published : publishedStates (past ++ [.published state]) = publishedStates past ++ [state] :=
    publishedStates_append past _
  have shown : shownStates (past ++ [.published state]) = shownStates past :=
    (shownStates_append past _).trans (List.append_nil _)
  -- from now on the state is one that has yet to be shown
  have before := account.shown
  rw [phase] at before
  refine ⟨?_, ?_, ?_, ?_⟩
  · rw [published, List.length_append, List.length_singleton]
    exact congrArg (· + 1) account.published
  · rw [published, publishAll, List.foldl_append]
    exact congrArg (·.publish (some state)) account.results
  · rw [published, shown, ← before]
    exact congrArg (· ++ [state]) (List.append_nil _).symm
  · rw [shown]
    exact account.observed

theorem StateAccount.show (account : StateAccount m past s) {state : DriverState α} {last : Bool}
    (phase : s.inference = .observing last state) {after : InferencePhase α}
    (nothing : after.toShow = []) :
    StateAccount m (past ++ [.shown state])
      { s with observed := state :: s.observed, inference := after } := by
  have published : publishedStates (past ++ [.shown state]) = publishedStates past :=
    (publishedStates_append past _).trans (List.append_nil _)
  have shown : shownStates (past ++ [.shown state]) = shownStates past ++ [state] :=
    shownStates_append past _
  have before := account.shown
  rw [phase] at before
  refine ⟨?_, ?_, ?_, ?_⟩
  · rw [published]
    exact account.published
  · rw [published]
    exact account.results
  · rw [published, shown, nothing, List.append_nil]
    exact before
  · rw [shown, List.reverse_cons]
    exact congrArg (· ++ [state]) account.observed

/-- A state is published and then shown before the next one is estimated. -/
theorem StateAccount.move (account : StateAccount m past s)
    (move : Move setup s party event next) : StateAccount m (past ++ event.toList) next := by
  cases move with
  | captureStops | captureAsks | face | noFace | streamEnds | sourceFails | sourceCrashes
  | publishFace | captureLeaves | captureRests | inferenceRests | stops =>
    exact account.keeps rfl rfl rfl rfl rfl rfl
  | inferenceTests phase | seesFace phase | estimates phase | estimateCrashes phase
  | inferenceLeaves phase => exact account.keeps rfl rfl rfl rfl (by rw [phase]; rfl) rfl
  | seesNothingNew phase | seesNoFace phase | estimateFails phase =>
    exact account.keeps rfl rfl rfl rfl (by rw [phase]; exact InferencePhase.toShow_afterTick _) rfl
  | publishState phase => exact account.publish phase
  | showState phase => exact account.show phase (InferencePhase.toShow_afterTick _)
  | observerCrashes phase => exact account.show phase rfl

/-! ## Estimated states -/

def Estimated (setup : Setup σ τ α) (past : List (RunEvent α)) (s : RunState σ τ α) : Prop :=
  ∀ state ∈ publishedStates past ++ s.inference.toPublish,
    ∃ memory face later, setup.estimator.estimate memory face = (.state state, later)

/-- Only the states that a step brings in have to be looked at. -/
theorem Estimated.extend (estimated : Estimated setup past s)
    (new : ∀ state ∈ publishedStates event.toList ++ next.inference.toPublish,
      state ∈ s.inference.toPublish ∨
        ∃ memory face later, setup.estimator.estimate memory face = (.state state, later)) :
    Estimated setup (past ++ event.toList) next := by
  intro state present
  rw [publishedStates_append, List.append_assoc] at present
  obtain old | recent := List.mem_append.mp present
  · exact estimated state (List.mem_append_left _ old)
  · obtain held | given := new state recent
    · exact estimated state (List.mem_append_right _ held)
    · exact given

theorem Estimated.move (estimated : Estimated setup past s) (move : Move setup s party event next) :
    Estimated setup (past ++ event.toList) next := by
  refine estimated.extend fun state present => ?_
  cases move with
  | captureStops | captureAsks | face | noFace | streamEnds | sourceFails | sourceCrashes
  | publishFace | captureLeaves | captureRests | inferenceRests | stops => exact .inl present
  | inferenceTests | seesFace | estimateCrashes | observerCrashes | inferenceLeaves => cases present
  | seesNothingNew | seesNoFace | estimateFails | showState =>
    rw [InferencePhase.toPublish_afterTick] at present
    cases present
  | estimates phase verdict =>
    cases List.mem_singleton.mp present
    exact .inr ⟨_, _, _, verdict⟩
  | publishState phase =>
    rw [phase]
    exact .inl present

/-! ## Runs -/

theorem Move.results_eq (move : Move setup s party event next)
    (silent : ∀ state, event ≠ some (.published state)) : next.results = s.results := by
  cases move with
  | publishState => exact absurd rfl (silent _)
  | _ => rfl

theorem publishAll_version (results : Cell (Option (DriverState α))) (states : List (DriverState α)) :
    (publishAll results states).version = results.version + states.length := by
  induction states generalizing results with
  | nil => rfl
  | cons state states ih =>
    rw [publishAll, List.foldl_cons, List.length_cons, ← publishAll, ih, Cell.publish_version]
    omega

/-- The cell holds the last of the states, or what it held before if there are none. -/
theorem publishAll_value (results : Cell (Option (DriverState α))) (states : List (DriverState α)) :
    (publishAll results states).value = states.getLast?.or results.value := by
  rcases states.eq_nil_or_concat with rfl | ⟨earlier, last, rfl⟩
  · rfl
  · rw [publishAll, List.concat_eq_append, List.foldl_append, List.getLast?_concat]
    rfl

structure RunAccount (setup : Setup σ τ α) (m : Monitor τ α) (past : List (RunEvent α))
    (s : RunState σ τ α) : Prop where
  capture : CaptureAccount m s
  ticks : TicksAddUp s
  states : StateAccount m past s
  estimated : Estimated setup past s

theorem RunAccount.move (account : RunAccount setup m past s)
    (move : Move setup s party event next) : RunAccount setup m (past ++ event.toList) next :=
  ⟨account.capture.move move, account.ticks.move move, account.states.move move,
    account.estimated.move move⟩

theorem runAccount_start (setup : Setup σ τ α) (m : Monitor τ α) (source : σ) :
    RunAccount setup m [] (m.start source) :=
  ⟨⟨rfl, rfl⟩, fun _ => rfl, ⟨rfl, rfl, rfl, rfl⟩, nofun⟩

/-- All balances hold after any schedule. -/
theorem runAccount_execute (setup : Setup σ τ α) (m : Monitor τ α) (source : σ)
    (schedule : List Party) :
    RunAccount setup m (events setup (m.start source) schedule)
      (execute setup (m.start source) schedule) :=
  execute_keeps (RunAccount setup m) (fun move account => account.move move)
    (runAccount_start setup m source) schedule

theorem RunState.counts_of_finished {captured : CaptureCounts} {inferred : InferenceCounts}
    (finished : s.ending? = some (.finished captured inferred)) :
    s.captured = captured ∧ s.inferred = inferred := by
  obtain ⟨captureDone, inferenceDone⟩ := RunState.done_of_finished finished
  rw [ending?, captureDone, inferenceDone] at finished
  cases finished
  exact ⟨rfl, rfl⟩

/-- Whatever the source and the model of the gaze do, and whenever the stop flag is set: after a run
that nothing crashed in, frames and ticks add up, each cell has grown by what was put in it, the
observer was shown what was published, and the result cell holds the last of that. The program's runs
are among these, since its estimators are of this form by `Estimator.ofModel_eq_ofGaze`. -/
theorem finished_run_adds_up [Scalar α] (source : Source σ α) (kind : GazeModelKind)
    (gaze : τ → Face α → Option (Except Failure (GazeAngle α)) × τ) (rateHz : τ → α)
    (observerCrashes : List (DriverState α) → Bool) (m : Monitor τ α) (start : σ)
    (schedule : List Party) (captured : CaptureCounts) (inferred : InferenceCounts) :
    let setup : Setup σ τ α := { source, estimator := .ofGaze kind gaze rateHz, observerCrashes }
    let shown := events setup (m.start start) schedule
    let last := execute setup (m.start start) schedule
    last.ending? = some (.finished captured inferred) →
      captured.frames = captured.faces + captured.misses ∧
      last.landmarks.version = m.landmarks.version + captured.faces ∧
      inferred.ticks = inferred.published + inferred.idle + inferred.failed ∧
      last.results.version = m.results.version + inferred.published ∧
      last.results.value = (publishedStates shown).getLast?.or m.results.value ∧
      inferred.published = (publishedStates shown).length ∧
      shownStates shown = publishedStates shown ∧
      last.observed.reverse = publishedStates shown ∧
      (∀ state ∈ publishedStates shown, state.model = kind) ∧
      ∀ s party, (∀ state, s.event? setup party ≠ some (.published state)) →
        (step setup s party).results = s.results := by
  intro setup shown last finished
  obtain ⟨captureDone, inferenceDone⟩ := RunState.done_of_finished finished
  obtain ⟨captureCounts, inferenceCounts⟩ := RunState.counts_of_finished finished
  obtain ⟨capture, ticks, states, estimated⟩ := runAccount_execute setup m start schedule
  -- neither loop has anything left to hand on
  have faces := capture.faces
  have noneToShow := states.shown
  rw [captureDone, captureCounts] at faces
  rw [inferenceDone] at noneToShow
  have allShown : shownStates shown = publishedStates shown :=
    (List.append_nil _).symm.trans noneToShow
  have ticks := ticks.balance 0 inferenceDone rfl rfl
  have published := states.published
  rw [inferenceCounts] at ticks published
  have frames := capture.frames
  rw [captureCounts] at frames
  refine ⟨frames, faces, ticks, ?_, ?_, published, allShown, ?_, ?_, ?_⟩
  · rw [published, ← publishAll_version, ← states.results]
  · rw [← publishAll_value, ← states.results]
  · rw [← allShown]
    exact states.observed
  · intro state present
    obtain ⟨memory, face, later, given⟩ := estimated state (List.mem_append_left _ present)
    exact Estimator.model_of_ofGaze given
  · intro s party silent
    exact (move_step setup s party).results_eq silent

/-- A face, a frame without one, an error of the source, and a face on which the model fails. -/
theorem finished_run_adds_up_mixed_source :
    let face : UInt64 → Face Float := fun bits =>
      let x : Float := .ofBits bits
      let point : Point3 Float := ⟨x, x, x⟩
      let eyelid : Eyelid Float := ⟨point, point, point, point, point, point⟩
      ⟨point, point, point, point, eyelid, eyelid, point, point⟩
    let angle : GazeAngle Float := ⟨.ofBits 0, .ofBits 0⟩
    let gaze : Nat → Face Float → Option (Except Failure (GazeAngle Float)) × Nat :=
      fun calls _ => (some (if calls = 0 then .ok angle else .error .io), calls + 1)
    let setup : Setup (List (ScriptStep Float)) Nat Float :=
      { source := .script, estimator := .ofGaze .pose gaze fun _ => .ofBits 0 }
    let m : Monitor Nat Float := { estimator := 0, landmarks := ⟨none, 7⟩, results := ⟨none, 5⟩ }
    let script : List (ScriptStep Float) :=
      [⟨.gives (.ok (.face (face 1))), false⟩, ⟨.gives (.ok .noFace), false⟩,
        ⟨.gives (.error .io), false⟩, ⟨.gives (.ok (.face (face 2))), false⟩]
    let schedule : List Party := .replicate 3 .capture ++ .replicate 5 .inference ++
      .replicate 7 .capture ++ .replicate 3 .inference ++ .replicate 3 .capture ++
      .replicate 3 .inference
    let last := execute setup (m.start script) schedule
    last.ending? = some (.finished ⟨3, 2, 1, 1⟩ ⟨3, 1, 1, 1⟩) ∧ last.landmarks.version = 7 + 2 ∧
      last.results.version = 5 + 1 ∧
      ∀ state ∈ publishedStates (events setup (m.start script) schedule), state.model = .pose := by
  intro face angle gaze setup m script schedule last
  -- the whole schedule is run; no step of it depends on a number
  have finished : (execute setup (m.start script) schedule).ending? =
      some (.finished ⟨3, 2, 1, 1⟩ ⟨3, 1, 1, 1⟩) := by
    simp only [setup, m, script, schedule, gaze, angle, face]
    rfl
  obtain ⟨-, landmarks, -, results, -, -, -, -, kinds, -⟩ :=
    finished_run_adds_up .script .pose gaze (fun _ => .ofBits 0) (fun _ => false) m script schedule
      _ _ finished
  exact ⟨finished, landmarks, results, kinds⟩

end DriverMonitor
