import DriverMonitor.Proofs.Monitor.Accounts
import DriverMonitor.Proofs.Monitor.Stopping

/-! # Crashes of inference

The model of the gaze may crash, and so may the observer. From then on nothing is published, so the
result cell stays with what was published before. The landmark cell holds a face, as inference has
taken one from it, and capture may still put newer ones there.

A later run of the same monitor has seen no version yet. Its first look finds the face that was left
there, or one captured since, and that is the first face it estimates.
-/

namespace DriverMonitor

variable {σ τ α : Type} {setup : Setup σ τ α} {m : Monitor τ α} {past : List (RunEvent α)}
variable {party : Party} {event : Option (RunEvent α)} {s next : RunState σ τ α}

/-! ## The landmark cell -/

def Cell.HoldsFace (cell : Cell (Option (Face α))) : Prop :=
  0 < cell.version ∧ ∃ face, cell.value = some face

/-- No step takes a face back from the cell. -/
theorem Move.holdsFace (move : Move setup s party event next) (holds : s.landmarks.HoldsFace) :
    next.landmarks.HoldsFace := by
  cases move with
  | @publishFace face => exact ⟨Nat.succ_pos _, face, rfl⟩
  | _ => exact holds

variable (setup) in
theorem holdsFace_execute (holds : s.landmarks.HoldsFace) (schedule : List Party) :
    (execute setup s schedule).landmarks.HoldsFace :=
  execute_keeps_state (fun s => s.landmarks.HoldsFace) (fun move => move.holdsFace) holds schedule

/-- Whether inference has taken a face in its tick, or crashed, which it does only with a face. -/
def InferencePhase.tookFace : InferencePhase α → Bool
  | .testing | .looking _ => false
  | .estimating .. | .publishing .. | .observing .. => true
  | .leaving crashed | .done crashed => crashed

theorem InferencePhase.tookFace_afterTick (last : Bool) :
    (afterTick last : InferencePhase α).tookFace = false := by
  cases last <;> rfl

def TakenFromCell (s : RunState σ τ α) : Prop :=
  s.inference.tookFace = true → s.landmarks.HoldsFace

theorem TakenFromCell.move (taken : TakenFromCell s) (move : Move setup s party event next) :
    TakenFromCell next := by
  intro took
  cases move with
  | seesFace phase fresh content => exact ⟨Nat.zero_lt_of_lt fresh, _, content⟩
  | inferenceTests => cases took
  | seesNothingNew | seesNoFace | estimateFails | showState =>
    rw [InferencePhase.tookFace_afterTick] at took
    cases took
  | estimates phase | estimateCrashes phase | publishState phase | observerCrashes phase =>
    exact taken (by rw [phase]; rfl)
  | inferenceLeaves phase => exact taken (by rw [phase]; exact took)
  | @publishFace face => exact ⟨Nat.succ_pos _, face, rfl⟩
  | _ => exact taken took

/-- A face that inference works on was in the cell. -/
theorem takenFromCell_execute (setup : Setup σ τ α) (m : Monitor τ α) (source : σ)
    (schedule : List Party) : TakenFromCell (execute setup (m.start source) schedule) := by
  have start : TakenFromCell (m.start source) := fun took => absurd took Bool.false_ne_true
  exact execute_keeps_state TakenFromCell (fun move taken => taken.move move) start schedule

/-- Once capture has ended, the cell holds the last face that there was. -/
theorem getLast?_of_capture_done {source : σ} {schedule : List Party} {crashed : Bool}
    (done : (execute setup (m.start source) schedule).capture = .done crashed)
    (holds : (execute setup (m.start source) schedule).landmarks.HoldsFace) :
    (m.waiting ++ capturedFaces (events setup (m.start source) schedule)).getLast? =
      (execute setup (m.start source) schedule).landmarks.value := by
  obtain ⟨put, agrees⟩ := exists_agrees setup m source schedule
  have available := agrees.available
  rw [done] at available
  have newest := agrees.tracks.newest
  rw [if_pos holds.1] at newest
  rw [available, ← newest]
  exact congrArg List.getLast? (List.append_nil put)

/-! ## After a crash -/

inductive RunState.AboutToCrash (setup : Setup σ τ α) (s : RunState σ τ α) : Prop where
  | model {last : Bool} {face : Face α} {estimator : τ}
      (phase : s.inference = .estimating last face)
      (verdict : setup.estimator.estimate s.estimator face = (.crashed, estimator))
  | observer {last : Bool} {state : DriverState α} (phase : s.inference = .observing last state)
      (crash : setup.observerCrashes (state :: s.observed) = true)

theorem RunState.AboutToCrash.tookFace (crash : s.AboutToCrash setup) :
    s.inference.tookFace = true := by
  cases crash with
  | model phase | observer phase =>
    rw [phase]
    rfl

/-- The step that crashes publishes nothing. -/
theorem Move.crashes (move : Move setup s .inference event next) (crash : s.AboutToCrash setup) :
    next.inference.hasCrashed = true ∧ next.results = s.results := by
  cases move with
  | estimateCrashes | observerCrashes => exact ⟨rfl, rfl⟩
  -- the estimator has one verdict on this face, and that is a crash
  | estimates phase given | estimateFails phase given =>
    cases crash with
    | model current verdict =>
      cases phase.symm.trans current
      cases given.symm.trans verdict
    | observer current => cases phase.symm.trans current
  | showState phase calm =>
    cases crash with
    | model current => cases phase.symm.trans current
    | observer current crash =>
      cases phase.symm.trans current
      cases calm.symm.trans crash
  -- in the other phases nothing can crash
  | inferenceTests phase | seesNothingNew phase | seesNoFace phase | seesFace phase
  | publishState phase | inferenceLeaves phase | inferenceRests phase =>
    cases crash with
    | model current | observer current => cases phase.symm.trans current

theorem Move.hasCrashed (move : Move setup s party event next)
    (crashed : s.inference.hasCrashed = true) :
    next.inference.hasCrashed = true ∧ next.results = s.results := by
  cases move with
  | inferenceLeaves phase =>
    rw [phase] at crashed
    exact ⟨crashed, rfl⟩
  | inferenceTests phase | seesNothingNew phase | seesNoFace phase | seesFace phase
  | estimates phase | estimateFails phase | estimateCrashes phase | publishState phase
  | showState phase | observerCrashes phase =>
    rw [phase] at crashed
    cases crashed
  | _ => exact ⟨crashed, rfl⟩

theorem InferencePhase.stepsLeft_of_hasCrashed {phase : InferencePhase α}
    (crashed : phase.hasCrashed = true) : phase.stepsLeft ≤ 1 := by
  cases phase with
  | leaving | done => simp [stepsLeft]
  | testing | looking | estimating | publishing | observing => cases crashed

theorem Move.stepsLeft_of_hasCrashed (move : Move setup s .inference event next)
    (crashed : s.inference.hasCrashed = true) :
    next.inference.stepsLeft ≤ s.inference.stepsLeft - 1 := by
  cases move with
  | inferenceLeaves => exact Nat.zero_le _
  | inferenceRests phase =>
    rw [phase]
    exact Nat.le_refl _
  | inferenceTests phase | seesNothingNew phase | seesNoFace phase | seesFace phase
  | estimates phase | estimateFails phase | estimateCrashes phase | publishState phase
  | showState phase | observerCrashes phase =>
    rw [phase] at crashed
    cases crashed

variable (setup) in
/-- A crash is final, and the result cell stays as it is. -/
theorem hasCrashed_execute (crashed : s.inference.hasCrashed = true) (schedule : List Party) :
    (execute setup s schedule).inference.hasCrashed = true ∧
      (execute setup s schedule).results = s.results := by
  refine execute_keeps_state
    (fun next => next.inference.hasCrashed = true ∧ next.results = s.results) ?_ ⟨crashed, rfl⟩ _
  rintro before party event next move ⟨crashed, results⟩
  have after := move.hasCrashed crashed
  exact ⟨after.1, after.2.trans results⟩

variable (setup) in
/-- After a crash one more step is enough to leave. -/
theorem inference_done_of_hasCrashed (crashed : s.inference.hasCrashed = true)
    {schedule : List Party} (steps : .inference ∈ schedule) :
    ∃ crashed, (execute setup s schedule).inference = .done crashed := by
  have left : (execute setup s schedule).inference.stepsLeft ≤
      s.inference.stepsLeft - schedule.count .inference := by
    refine execute_lowers (fun s => s.inference.stepsLeft) .inference
      (fun s => s.inference.hasCrashed = true) (fun move crashed => (move.hasCrashed crashed).1)
      (fun move => move.stepsLeft_of_hasCrashed) ?_ crashed _
    intro s party event next move _ other
    exact Nat.le_of_eq (congrArg InferencePhase.stepsLeft (move.inference_eq other))
  have atMost := InferencePhase.stepsLeft_of_hasCrashed crashed
  have enough := List.one_le_count_iff.mpr steps
  exact InferencePhase.done_of_stepsLeft (by omega)

/-- A run ends after a crash of inference, as its end sets the flag. -/
theorem ends_of_hasCrashed {source : σ} {earlier soon late : List Party}
    (crashed : (execute setup (m.start source) earlier).inference.hasCrashed = true)
    (inferenceSteps : .inference ∈ soon) (captureSteps : 4 ≤ late.count .capture) :
    (execute setup (m.start source) (earlier ++ (soon ++ late))).ending?.isSome := by
  -- inference ends in the first part and sets the flag, so capture ends in the second
  obtain ⟨_, leftThen⟩ := inference_done_of_hasCrashed setup crashed inferenceSteps
  have set : (execute setup (m.start source) (earlier ++ soon)).stopped = true := by
    apply (endsSet_execute setup m source (earlier ++ soon)).inference
    rw [execute_append, leftThen]
  refine RunState.ended_iff.mpr ⟨?_, ?_⟩
  · rw [← List.append_assoc, execute_append]
    exact capture_done_of_stopped setup set captureSteps
  · rw [execute_append]
    exact inference_done_of_hasCrashed setup crashed (List.mem_append_left _ inferenceSteps)

/-! ## Crashes of the source -/

def CapturePhase.hasCrashed : CapturePhase α → Bool
  | .leaving crashed | .done crashed => crashed
  | _ => false

def CrashesWithSource (past : List (RunEvent α)) (s : RunState σ τ α) : Prop :=
  s.capture.hasCrashed = true ↔ .crashes ∈ sourceCalls past

theorem CrashesWithSource.keeps (iff : CrashesWithSource past s)
    (same : next.capture.hasCrashed = s.capture.hasCrashed)
    (calm : .crashes ∉ sourceCalls event.toList) :
    CrashesWithSource (past ++ event.toList) next := by
  rw [CrashesWithSource, same, sourceCalls_append, List.mem_append, or_iff_left calm]
  exact iff

theorem CrashesWithSource.move (iff : CrashesWithSource past s)
    (move : Move setup s party event next) : CrashesWithSource (past ++ event.toList) next := by
  cases move with
  | sourceCrashes =>
    rw [CrashesWithSource, sourceCalls_append]
    exact ⟨fun _ => List.mem_append_right _ List.mem_cons_self, fun _ => rfl⟩
  | captureStops phase | captureAsks phase | publishFace phase | captureLeaves phase =>
    exact iff.keeps (by rw [phase]; rfl) nofun
  | face phase | noFace phase | streamEnds phase | sourceFails phase =>
    refine iff.keeps (by rw [phase]; rfl) fun crash => ?_
    cases List.mem_singleton.mp crash
  | _ => exact iff.keeps rfl nofun

/-- Capture has crashed exactly if the source has. -/
theorem crashesWithSource_execute (setup : Setup σ τ α) (m : Monitor τ α) (source : σ)
    (schedule : List Party) :
    CrashesWithSource (events setup (m.start source) schedule)
      (execute setup (m.start source) schedule) := by
  have start : CrashesWithSource [] (m.start source) :=
    ⟨fun crashed => absurd crashed Bool.false_ne_true, nofun⟩
  exact execute_keeps CrashesWithSource (fun move iff => iff.move move) start schedule

/-- A crash of capture outweighs one of inference. -/
theorem RunState.ending_of_hasCrashed (ended : s.ending?.isSome)
    (crashed : s.inference.hasCrashed = true) :
    s.ending? =
      some (if s.capture.hasCrashed then .sourceCrashed else .failed .inferenceCrashed) := by
  obtain ⟨⟨captureCrashed, captureDone⟩, inferenceCrashed, inferenceDone⟩ := ended_iff.mp ended
  rw [inferenceDone] at crashed
  cases crashed
  rw [ending?, captureDone, inferenceDone]
  cases captureCrashed <;> rfl

/-- A run that inference has crashed in is no success: it fails with that, or the source has crashed
too. -/
theorem ending_execute_of_hasCrashed {source : σ} {schedule : List Party}
    (ended : (execute setup (m.start source) schedule).ending?.isSome)
    (crashed : (execute setup (m.start source) schedule).inference.hasCrashed = true) :
    (.crashes ∉ sourceCalls (events setup (m.start source) schedule) →
        (execute setup (m.start source) schedule).ending? = some (.failed .inferenceCrashed)) ∧
      (.crashes ∈ sourceCalls (events setup (m.start source) schedule) →
        (execute setup (m.start source) schedule).ending? = some .sourceCrashed) := by
  have ending := RunState.ending_of_hasCrashed ended crashed
  have withSource := crashesWithSource_execute setup m source schedule
  constructor
  · intro calm
    rw [ending, if_neg (mt withSource.mp calm)]
  · intro sourceCrash
    rw [ending, if_pos (withSource.mpr sourceCrash)]

/-! ## A later run -/

/-- The first face that was taken is one that waited at the start or was captured before the first
look. -/
def TookFirst (waiting : List (Face α)) (shown : List (RunEvent α)) (taken : List (Face α)) :
    Prop :=
  ∃ soon others first rest, shown = soon ++ .looked :: others ∧ .looked ∉ soon ∧
    taken = first :: rest ∧ first ∈ waiting ++ capturedFaces soon

theorem TookFirst.append {waiting taken : List (Face α)} (first : TookFirst waiting past taken)
    (new : List (RunEvent α)) (more : List (Face α)) :
    TookFirst waiting (past ++ new) (taken ++ more) := by
  obtain ⟨soon, others, face, rest, rfl, notLooked, rfl, present⟩ := first
  exact ⟨soon, others ++ new, face, rest ++ more, List.append_assoc .., notLooked, rfl, present⟩

theorem Move.exists_face_append (move : Move setup s party event next) :
    ∃ more, estimatedFaces event.toList ++ next.inference.face = s.inference.face ++ more := by
  cases move with
  | @seesFace _ face phase =>
    rw [phase]
    exact ⟨[face], rfl⟩
  | inferenceTests phase | estimates phase | estimateCrashes phase | publishState phase
  | observerCrashes phase | inferenceLeaves phase =>
    rw [phase]
    exact ⟨[], rfl⟩
  | seesNothingNew phase | seesNoFace phase | showState phase | estimateFails phase =>
    rw [phase, face_afterTick]
    exact ⟨[], rfl⟩
  | _ => exact ⟨[], (List.append_nil _).symm⟩

structure BeforeLook (past : List (RunEvent α)) (s : RunState σ τ α) : Prop where
  phase : s.inference = .testing ∨ ∃ last, s.inference = .looking last
  seen : s.seen = 0
  notLooked : .looked ∉ past
  notEstimated : estimatedFaces past = []

theorem BeforeLook.keeps (before : BeforeLook past s) (inference : next.inference = s.inference)
    (seen : next.seen = s.seen) (looksNot : .looked ∉ event.toList)
    (estimatesNot : estimatedFaces event.toList = []) :
    BeforeLook (past ++ event.toList) next := by
  refine ⟨inference ▸ before.phase, seen.trans before.seen, ?_, ?_⟩
  · rw [List.mem_append, not_or]
    exact ⟨before.notLooked, looksNot⟩
  · rw [estimatedFaces_append, before.notEstimated, estimatesNot]
    rfl

/-- The first look ends the wait: what it takes is the face that waited or one captured since. -/
theorem BeforeLook.move {put : List (Face α)} (before : BeforeLook past s)
    (agrees : Agrees m.waiting past s put) (holds : s.landmarks.HoldsFace)
    (move : Move setup s party event next) :
    BeforeLook (past ++ event.toList) next ∨
      TookFirst m.waiting (past ++ event.toList)
        (estimatedFaces (past ++ event.toList) ++ next.inference.face) := by
  obtain ⟨published, held, value⟩ := holds
  have phases := before.phase
  cases move with
  | inferenceTests =>
    obtain ⟨-, seen, notLooked, notEstimated⟩ := before
    rw [Option.toList_none, List.append_nil]
    exact .inl ⟨.inr ⟨_, rfl⟩, seen, notLooked, notEstimated⟩
  | @seesFace last face phase fresh content =>
    -- what the first look finds is the last face that was put, and nothing was taken before
    have newest := agrees.tracks.newest
    rw [if_pos published, content] at newest
    have present : face ∈ m.waiting ++ capturedFaces past := by
      rw [agrees.available]
      exact List.mem_append_left _ (List.mem_of_getLast? newest)
    refine .inr ⟨past, [], face, [], rfl, before.notLooked, ?_, present⟩
    rw [estimatedFaces_append, before.notEstimated]
    rfl
  | seesNothingNew phase old =>
    -- no version was seen yet, so the one of the cell is newer
    rw [before.seen] at old
    omega
  | seesNoFace phase fresh content =>
    rw [content] at value
    cases value
  | estimates phase | estimateFails phase | estimateCrashes phase | publishState phase
  | showState phase | observerCrashes phase | inferenceLeaves phase | inferenceRests phase =>
    rw [phase] at phases
    obtain testing | ⟨last, looking⟩ := phases
    · cases testing
    · cases looking
  | face | noFace | streamEnds | sourceFails | sourceCrashes =>
    refine .inl (before.keeps rfl rfl ?_ rfl)
    intro looked
    cases List.mem_singleton.mp looked
  | captureStops | captureAsks | publishFace | captureLeaves | captureRests | stops =>
    exact .inl (before.keeps rfl rfl nofun rfl)

/-- What a run keeps that starts with a face in the cell. -/
structure Resumes (m : Monitor τ α) (past : List (RunEvent α)) (s : RunState σ τ α) : Prop where
  agrees : ∃ put, Agrees m.waiting past s put
  holds : s.landmarks.HoldsFace
  look : BeforeLook past s ∨ TookFirst m.waiting past (estimatedFaces past ++ s.inference.face)

theorem Resumes.move (resumes : Resumes m past s) (move : Move setup s party event next) :
    Resumes m (past ++ event.toList) next := by
  obtain ⟨⟨put, agrees⟩, holds, look⟩ := resumes
  refine ⟨agrees_move move agrees, move.holdsFace holds, ?_⟩
  obtain before | first := look
  · exact before.move agrees holds move
  · obtain ⟨more, extended⟩ := move.exists_face_append
    rw [estimatedFaces_append, List.append_assoc, extended, ← List.append_assoc]
    exact .inr (first.append event.toList more)

theorem tookFirst_of_inference_done {source : σ} {schedule : List Party} {crashed : Bool}
    (holds : m.landmarks.HoldsFace)
    (done : (execute setup (m.start source) schedule).inference = .done crashed) :
    TookFirst m.waiting (events setup (m.start source) schedule)
      (estimatedFaces (events setup (m.start source) schedule)) := by
  have start : Resumes m [] (m.start source) :=
    ⟨⟨_, agrees_start m source⟩, holds, .inl ⟨.inl rfl, rfl, nofun, rfl⟩⟩
  have resumes : Resumes m (events setup (m.start source) schedule)
      (execute setup (m.start source) schedule) :=
    execute_keeps (Resumes m) (fun move resumes => resumes.move move) start schedule
  have look := resumes.look
  rw [done] at look
  obtain before | first := look
  -- inference does not end before it has looked
  · obtain testing | ⟨last, looking⟩ := before.phase
    · cases done.symm.trans testing
    · cases done.symm.trans looking
  · have noneHeld : (InferencePhase.done crashed : InferencePhase α).face = [] := rfl
    rw [noneHeld, List.append_nil] at first
    exact first

/-- The face that was left in the cell is the one that waits for a later run. -/
theorem tookFirst_of_value {source : σ} {schedule : List Party} {face : Face α} {crashed : Bool}
    (holds : m.landmarks.HoldsFace) (value : m.landmarks.value = some face)
    (done : (execute setup (m.start source) schedule).inference = .done crashed) :
    TookFirst [face] (events setup (m.start source) schedule)
      (estimatedFaces (events setup (m.start source) schedule)) := by
  have waiting : m.waiting = [face] := by
    rw [Monitor.waiting, if_pos holds.1, value]
    rfl
  rw [← waiting]
  exact tookFirst_of_inference_done holds done

/-! ## Runs -/

variable (setup) in
theorem crashed_execute (crash : s.AboutToCrash setup) (rest : List Party) :
    (execute setup s (.inference :: rest)).inference.hasCrashed = true ∧
      (execute setup s (.inference :: rest)).results = s.results := by
  obtain ⟨crashed, results⟩ := (move_step setup s .inference).crashes crash
  have after := hasCrashed_execute setup crashed rest
  exact ⟨after.1, after.2.trans results⟩

/-- Inference crashes only with a face in the cell, and later steps leave one there. -/
theorem holdsFace_of_crash {source : σ} {earlier : List Party}
    (crash : (execute setup (m.start source) earlier).AboutToCrash setup) (later : List Party) :
    (execute setup (m.start source) (earlier ++ later)).landmarks.HoldsFace := by
  rw [execute_append]
  exact holdsFace_execute setup (takenFromCell_execute setup m source earlier crash.tookFace) later

theorem results_value_execute (setup : Setup σ τ α) (m : Monitor τ α) (source : σ)
    (schedule : List Party) :
    (execute setup (m.start source) schedule).results.value =
      (publishedStates (events setup (m.start source) schedule)).getLast?.or m.results.value := by
  rw [← publishAll_value]
  exact congrArg Cell.value (runAccount_execute setup m source schedule).states.results

/-- Once the stop flag is set, the source is asked at most once more, at most one more tick begins,
and both loops end. Either of them has set the flag when it ends. When inference crashes, the run
ends with that failure unless the source crashes too; the result cell stays as it was, and the
landmark cell has the last face that there was. A later run estimates that face first, or one that
it has captured before it looked. -/
theorem stops_end_runs_and_crashes_keep_cells (setup : Setup σ τ α) (m : Monitor τ α) (source : σ)
    (earlier later : List Party) :
    let before := execute setup (m.start source) earlier
    let last := execute setup (m.start source) (earlier ++ later)
    let shown := events setup (m.start source) (earlier ++ later)
    (before.stopped = true →
      (sourceCalls (events setup before later)).length ≤ 1 ∧
      last.ticksBegun ≤ before.ticksBegun + 1 ∧
      (4 ≤ later.count .capture → 10 ≤ later.count .inference → last.ending?.isSome)) ∧
    (∀ crashed, last.capture = .done crashed ∨ last.inference = .done crashed →
      last.stopped = true) ∧
    (before.AboutToCrash setup → ∀ rest, later = .inference :: rest →
      last.results = before.results ∧
      last.results.value =
        (publishedStates (events setup (m.start source) earlier)).getLast?.or m.results.value ∧
      (∀ soon late, rest = soon ++ late → .inference ∈ soon → 4 ≤ late.count .capture →
        last.ending?.isSome) ∧
      (last.ending?.isSome →
        (.crashes ∉ sourceCalls shown → last.ending? = some (.failed .inferenceCrashed)) ∧
        (.crashes ∈ sourceCalls shown → last.ending? = some .sourceCrashed) ∧
        ∃ face, last.landmarks.value = some face ∧
          (m.waiting ++ capturedFaces shown).getLast? = some face ∧
          ∀ (ρ : Type) (again : Setup ρ τ α) (fresh : ρ) (schedule : List Party),
            let reshown := events again (last.monitor.start fresh) schedule
            (execute again (last.monitor.start fresh) schedule).ending?.isSome →
              TookFirst [face] reshown (estimatedFaces reshown))) := by
  intro before last shown
  have lastFrom : last = execute setup before later := execute_append ..
  refine ⟨?_, ?_, ?_⟩
  · intro set
    obtain ⟨-, calls, ticks⟩ := winding_execute setup set later
    rw [lastFrom]
    exact ⟨Nat.le_trans (Nat.le_add_right ..) calls, Nat.le_trans (Nat.le_add_right ..) ticks,
      ends_of_stopped setup set⟩
  · intro crashed ended
    have ends := endsSet_execute setup m source (earlier ++ later)
    exact ended.elim (ends.capture crashed) (ends.inference crashed)
  · rintro crash rest rfl
    obtain ⟨crashed, results⟩ := crashed_execute setup crash rest
    rw [← lastFrom] at crashed results
    have holds : last.landmarks.HoldsFace := holdsFace_of_crash crash _
    refine ⟨results, ?_, ?_, ?_⟩
    · rw [results]
      exact results_value_execute setup m source earlier
    · rintro soon late rfl inferenceSteps captureSteps
      -- the crash has happened after one step; the steps to the end are counted from there
      have thenCrashed := (crashed_execute setup crash []).1
      rw [← execute_append] at thenCrashed
      have ended := ends_of_hasCrashed thenCrashed inferenceSteps captureSteps
      rw [List.append_assoc, List.singleton_append] at ended
      exact ended
    · intro ended
      obtain ⟨failed, sourceCrashed⟩ := ending_execute_of_hasCrashed ended crashed
      obtain ⟨⟨_, captureDone⟩, -⟩ := RunState.ended_iff.mp ended
      have lastFace := getLast?_of_capture_done captureDone holds
      obtain ⟨face, value⟩ := holds.2
      refine ⟨failed, sourceCrashed, face, value, lastFace.trans value, ?_⟩
      -- the next run starts from the cells that this one has left
      intro ρ again fresh schedule reshown endedAgain
      obtain ⟨-, _, inferenceDone⟩ := RunState.ended_iff.mp endedAgain
      exact tookFirst_of_value holds value inferenceDone

/-- The model crashes on its second face, and the flag that is set then ends the run. The next run
estimates that face. -/
theorem stops_end_runs_and_crashes_keep_cells_second_face :
    let face : Nat → Face Nat := fun n =>
      let point : Point3 Nat := ⟨n, n, n⟩
      let eyelid : Eyelid Nat := ⟨point, point, point, point, point, point⟩
      ⟨point, point, point, point, eyelid, eyelid, point, point⟩
    let state : DriverState Nat := ⟨⟨0, 0⟩, ⟨0, 0, 0⟩, .pose, 0⟩
    let setup : Setup (List (ScriptStep Nat)) Nat Nat :=
      { source := .script
        estimator := ⟨fun calls _ => (if calls = 1 then .crashed else .state state, calls + 1)⟩ }
    let m : Monitor Nat Nat := { estimator := 0 }
    let script : List (ScriptStep Nat) :=
      [⟨.gives (.ok (.face (face 1))), false⟩, ⟨.gives (.ok (.face (face 2))), false⟩]
    let earlier : List Party := .replicate 3 .capture ++ .replicate 5 .inference ++
      .replicate 3 .capture ++ .replicate 2 .inference
    let after : List Party := .inference :: .replicate 4 .capture
    let rest : List Party := .replicate 4 .capture ++ .replicate 10 .inference
    let last := execute setup (m.start script) (earlier ++ .inference :: after)
    let again : List Party := .replicate 5 .inference ++ .replicate 3 .capture ++
      .replicate 3 .inference
    let reshown := events setup (last.monitor.start []) again
    (execute setup (m.start script) earlier).AboutToCrash setup ∧
      last.ending? = some (.failed .inferenceCrashed) ∧
      last.results.value = some state ∧ last.landmarks.value = some (face 2) ∧
      TookFirst [face 2] reshown (estimatedFaces reshown) ∧
      (execute setup (m.start script) (earlier ++ [.inference, .inference])).stopped = true ∧
      (execute setup (m.start script)
        ((earlier ++ [.inference, .inference]) ++ rest)).ending?.isSome := by
  intro face state setup m script earlier after rest
  -- the schedule stops in front of the call that crashes
  have crashes : (execute setup (m.start script) earlier).AboutToCrash setup :=
    .model (by cbv) (by cbv)
  obtain ⟨-, -, afterCrash⟩ := stops_end_runs_and_crashes_keep_cells setup m script earlier
    (.inference :: after)
  obtain ⟨-, results, ends, outcome⟩ := afterCrash crashes after rfl
  have ended := ends [.inference] (.replicate 4 .capture) rfl (by decide) (by decide)
  obtain ⟨failed, -, found, value, lastFace, later⟩ := outcome ended
  have captured : m.waiting ++ capturedFaces (events setup (m.start script)
      (earlier ++ .inference :: after)) = [face 1, face 2] := by cbv
  rw [captured] at lastFace
  cases lastFace
  have calm : .crashes ∉ sourceCalls (events setup (m.start script)
      (earlier ++ .inference :: after)) := by
    have calls : sourceCalls (events setup (m.start script) (earlier ++ .inference :: after)) =
        [.gives (.ok (.face (face 1))), .gives (.ok (.face (face 2)))] := by cbv
    rw [calls]
    simp
  have published : publishedStates (events setup (m.start script) earlier) = [state] := by cbv
  rw [published] at results
  have stopped : (execute setup (m.start script) (earlier ++ [.inference, .inference])).stopped =
      true := by cbv
  -- the step after the crash sets the flag, so from there on the first part applies
  obtain ⟨afterStop, -⟩ := stops_end_runs_and_crashes_keep_cells setup m script
    (earlier ++ [.inference, .inference]) rest
  obtain ⟨-, -, endsAfterStop⟩ := afterStop stopped
  refine ⟨crashes, failed calm, results, value, ?_, stopped, ?_⟩
  · exact later _ setup [] _ (by cbv)
  · exact endsAfterStop (by decide) (by decide)

end DriverMonitor
