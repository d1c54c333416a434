import DriverMonitor.Monitor.Pipeline

/-! # What a run shows

A state of a run holds the latest values only. What went on is told by the events of its steps: each
step shows at most one, and a schedule shows those of its steps in order. The statements about whole
runs compare sequences of events.

`Move` lists all that a step can do, guards included, and `move_step` says that the list is
complete; nothing else looks into the definition of a step. What every move keeps holds after every
schedule. `execute_keeps` says so of the events so far and the state they led to,
`execute_preserves_where` for schedules that are restricted, and `execute_lowers` bounds the work
that a party has left.
-/

namespace DriverMonitor

variable {σ τ α : Type}

/-- What one step shows to somebody who watches the loops. -/
inductive RunEvent (α : Type) where
  | asked (answer : SourceCall α)
  | looked
  | estimated (face : Face α)
  | published (state : DriverState α)
  | shown (state : DriverState α)

namespace RunEvent

def call? : RunEvent α → Option (SourceCall α)
  | .asked answer => some answer
  | _ => none

def capturedFace? : RunEvent α → Option (Face α)
  | .asked (.gives (.ok (.face face))) => some face
  | _ => none

def estimatedFace? : RunEvent α → Option (Face α)
  | .estimated face => some face
  | _ => none

def publishedState? : RunEvent α → Option (DriverState α)
  | .published state => some state
  | _ => none

def shownState? : RunEvent α → Option (DriverState α)
  | .shown state => some state
  | _ => none

end RunEvent

namespace RunState

def event? (setup : Setup σ τ α) (s : RunState σ τ α) : Party → Option (RunEvent α)
  | .capture =>
    match s.capture with
    | .calling => some (.asked (setup.source.next s.source).1)
    | _ => none
  | .inference =>
    match s.inference with
    | .looking _ => some .looked
    | .estimating _ face => some (.estimated face)
    | .publishing _ state => some (.published state)
    | .observing _ state => some (.shown state)
    | _ => none
  | .stopper => none

end RunState

def events (setup : Setup σ τ α) (s : RunState σ τ α) : List Party → List (RunEvent α)
  | [] => []
  | party :: rest => (s.event? setup party).toList ++ events setup (step setup s party) rest

def sourceCalls (es : List (RunEvent α)) : List (SourceCall α) := es.filterMap RunEvent.call?

def capturedFaces (es : List (RunEvent α)) : List (Face α) := es.filterMap RunEvent.capturedFace?

def estimatedFaces (es : List (RunEvent α)) : List (Face α) := es.filterMap RunEvent.estimatedFace?

def publishedStates (es : List (RunEvent α)) : List (DriverState α) :=
  es.filterMap RunEvent.publishedState?

def shownStates (es : List (RunEvent α)) : List (DriverState α) := es.filterMap RunEvent.shownState?

theorem sourceCalls_append (past new : List (RunEvent α)) :
    sourceCalls (past ++ new) = sourceCalls past ++ sourceCalls new :=
  List.filterMap_append

theorem capturedFaces_append (past new : List (RunEvent α)) :
    capturedFaces (past ++ new) = capturedFaces past ++ capturedFaces new :=
  List.filterMap_append

theorem estimatedFaces_append (past new : List (RunEvent α)) :
    estimatedFaces (past ++ new) = estimatedFaces past ++ estimatedFaces new :=
  List.filterMap_append

theorem publishedStates_append (past new : List (RunEvent α)) :
    publishedStates (past ++ new) = publishedStates past ++ publishedStates new :=
  List.filterMap_append

theorem shownStates_append (past new : List (RunEvent α)) :
    shownStates (past ++ new) = shownStates past ++ shownStates new :=
  List.filterMap_append

/-! ## Moves -/

def InferencePhase.afterTick (last : Bool) : InferencePhase α :=
  if last then .leaving false else .testing

/-- Who takes a step, what it shows and where it leads. -/
inductive Move (setup : Setup σ τ α) (s : RunState σ τ α) :
    Party → Option (RunEvent α) → RunState σ τ α → Prop where
  | captureStops (phase : s.capture = .testing) (stopped : s.stopped = true) :
      Move setup s .capture none { s with capture := .leaving false }
  | captureAsks (phase : s.capture = .testing) (running : s.stopped = false) :
      Move setup s .capture none { s with capture := .calling }
  | face {face : Face α} {source : σ} (phase : s.capture = .calling)
      (answer : setup.source.next s.source = (.gives (.ok (.face face)), source)) :
      Move setup s .capture (some (.asked (.gives (.ok (.face face)))))
        { s with
          source
          captured :=
            { s.captured with frames := s.captured.frames + 1, faces := s.captured.faces + 1 }
          capture := .publishing face }
  | noFace {source : σ} (phase : s.capture = .calling)
      (answer : setup.source.next s.source = (.gives (.ok .noFace), source)) :
      Move setup s .capture (some (.asked (.gives (.ok .noFace))))
        { s with
          source
          captured :=
            { s.captured with frames := s.captured.frames + 1, misses := s.captured.misses + 1 }
          capture := .testing }
  | streamEnds {source : σ} (phase : s.capture = .calling)
      (answer : setup.source.next s.source = (.gives (.ok .endOfStream), source)) :
      Move setup s .capture (some (.asked (.gives (.ok .endOfStream))))
        { s with source, capture := .leaving false }
  | sourceFails {failure : Failure} {source : σ} (phase : s.capture = .calling)
      (answer : setup.source.next s.source = (.gives (.error failure), source)) :
      Move setup s .capture (some (.asked (.gives (.error failure))))
        { s with
          source
          captured := { s.captured with errors := s.captured.errors + 1 }
          capture := .testing }
  | sourceCrashes {source : σ} (phase : s.capture = .calling)
      (answer : setup.source.next s.source = (.crashes, source)) :
      Move setup s .capture (some (.asked .crashes)) { s with source, capture := .leaving true }
  | publishFace {face : Face α} (phase : s.capture = .publishing face) :
      Move setup s .capture none
        { s with landmarks := s.landmarks.publish (some face), capture := .testing }
  | captureLeaves {crashed : Bool} (phase : s.capture = .leaving crashed) :
      Move setup s .capture none { s with stopped := true, capture := .done crashed }
  | captureRests {crashed : Bool} (phase : s.capture = .done crashed) :
      Move setup s .capture none s
  | inferenceTests (phase : s.inference = .testing) :
      Move setup s .inference none { s with inference := .looking s.stopped }
  | seesNothingNew {last : Bool} (phase : s.inference = .looking last)
      (old : s.landmarks.version ≤ s.seen) :
      Move setup s .inference (some .looked)
        { s with
          inferred := { s.inferred with ticks := s.inferred.ticks + 1, idle := s.inferred.idle + 1 }
          inference := .afterTick last }
  | seesNoFace {last : Bool} (phase : s.inference = .looking last)
      (fresh : s.seen < s.landmarks.version) (content : s.landmarks.value = none) :
      Move setup s .inference (some .looked)
        { s with
          seen := s.landmarks.version
          inferred := { s.inferred with ticks := s.inferred.ticks + 1, idle := s.inferred.idle + 1 }
          inference := .afterTick last }
  | seesFace {last : Bool} {face : Face α} (phase : s.inference = .looking last)
      (fresh : s.seen < s.landmarks.version) (content : s.landmarks.value = some face) :
      Move setup s .inference (some .looked)
        { s with
          seen := s.landmarks.version
          inferred := { s.inferred with ticks := s.inferred.ticks + 1 }
          inference := .estimating last face }
  | estimates {last : Bool} {face : Face α} {state : DriverState α} {estimator : τ}
      (phase : s.inference = .estimating last face)
      (verdict : setup.estimator.estimate s.estimator face = (.state state, estimator)) :
      Move setup s .inference (some (.estimated face))
        { s with estimator, inference := .publishing last state }
  | estimateFails {last : Bool} {face : Face α} {failure : Failure} {estimator : τ}
      (phase : s.inference = .estimating last face)
      (verdict : setup.estimator.estimate s.estimator face = (.failed failure, estimator)) :
      Move setup s .inference (some (.estimated face))
        { s with
          estimator
          inferred := { s.inferred with failed := s.inferred.failed + 1 }
          inference := .afterTick last }
  | estimateCrashes {last : Bool} {face : Face α} {estimator : τ}
      (phase : s.inference = .estimating last face)
      (verdict : setup.estimator.estimate s.estimator face = (.crashed, estimator)) :
      Move setup s .inference (some (.estimated face))
        { s with estimator, inference := .leaving true }
  | publishState {last : Bool} {state : DriverState α}
      (phase : s.inference = .publishing last state) :
      Move setup s .inference (some (.published state))
        { s with
          results := s.results.publish (some state)
          inferred := { s.inferred with published := s.inferred.published + 1 }
          inference := .observing last state }
  | showState {last : Bool} {state : DriverState α} (phase : s.inference = .observing last state)
      (calm : setup.observerCrashes (state :: s.observed) = false) :
      Move setup s .inference (some (.shown state))
        { s with observed := state :: s.observed, inference := .afterTick last }
  | observerCrashes {last : Bool} {state : DriverState α}
      (phase : s.inference = .observing last state)
      (crash : setup.observerCrashes (state :: s.observed) = true) :
      Move setup s .inference (some (.shown state))
        { s with observed := state :: s.observed, inference := .leaving true }
  | inferenceLeaves {crashed : Bool} (phase : s.inference = .leaving crashed) :
      Move setup s .inference none { s with stopped := true, inference := .done crashed }
  | inferenceRests {crashed : Bool} (phase : s.inference = .done crashed) :
      Move setup s .inference none s
  | stops : Move setup s .stopper none { s with stopped := true }

namespace RunState

variable {setup : Setup σ τ α} {s : RunState σ τ α}

/-- How capture goes on depends on what the source answers. -/
theorem move_receive {call : SourceCall α} {source : σ} (phase : s.capture = .calling)
    (answer : setup.source.next s.source = (call, source)) :
    Move setup s .capture (some (.asked call)) ({ s with source }.receive call) := by
  match call, answer with
  | .gives (.ok (.face _)), answer => exact .face phase answer
  | .gives (.ok .noFace), answer => exact .noFace phase answer
  | .gives (.ok .endOfStream), answer => exact .streamEnds phase answer
  | .gives (.error _), answer => exact .sourceFails phase answer
  | .crashes, answer => exact .sourceCrashes phase answer

theorem move_stepCapture :
    Move setup s .capture (s.event? setup .capture) (s.stepCapture setup) := by
  cases phase : s.capture with
  | testing =>
    simp only [event?, stepCapture, phase]
    split
    next stopped => exact .captureStops phase stopped
    next running => exact .captureAsks phase (Bool.eq_false_iff.mpr running)
  | calling =>
    rcases answer : setup.source.next s.source with ⟨call, source⟩
    simp only [event?, stepCapture, phase, answer]
    exact move_receive phase answer
  | publishing face =>
    simp only [event?, stepCapture, phase]
    exact .publishFace phase
  | leaving crashed =>
    simp only [event?, stepCapture, phase]
    exact .captureLeaves phase
  | done crashed =>
    simp only [event?, stepCapture, phase]
    exact .captureRests phase

/-- A look finds nothing new, a frame without a face, or a face. -/
theorem move_look {last : Bool} (phase : s.inference = .looking last) :
    Move setup s .inference (some .looked) (s.look last) := by
  unfold look Cell.newerThan?
  by_cases fresh : s.seen < s.landmarks.version
  · simp only [fresh, if_true, Cell.snapshot]
    cases content : s.landmarks.value with
    | none => exact .seesNoFace phase fresh content
    | some face => exact .seesFace phase fresh content
  · simp only [fresh, if_false]
    exact .seesNothingNew phase (Nat.le_of_not_lt fresh)

theorem move_stepInference :
    Move setup s .inference (s.event? setup .inference) (s.stepInference setup) := by
  cases phase : s.inference with
  | testing =>
    simp only [event?, stepInference, phase]
    exact .inferenceTests phase
  | looking last =>
    simp only [event?, stepInference, phase]
    exact move_look phase
  | estimating last face =>
    rcases verdict : setup.estimator.estimate s.estimator face with ⟨judged, estimator⟩
    simp only [event?, stepInference, phase, verdict]
    cases judged with
    | state state => exact .estimates phase verdict
    | failed failure => exact .estimateFails phase verdict
    | crashed => exact .estimateCrashes phase verdict
  | publishing last state =>
    simp only [event?, stepInference, phase]
    exact .publishState phase
  | observing last state =>
    simp only [event?, stepInference, phase]
    split
    next crash => exact .observerCrashes phase crash
    next calm => exact .showState phase (Bool.eq_false_iff.mpr calm)
  | leaving crashed =>
    simp only [event?, stepInference, phase]
    exact .inferenceLeaves phase
  | done crashed =>
    simp only [event?, stepInference, phase]
    exact .inferenceRests phase

end RunState

/-- Every step of a party is a move, also one that changes nothing. -/
theorem move_step (setup : Setup σ τ α) (s : RunState σ τ α) (party : Party) :
    Move setup s party (s.event? setup party) (step setup s party) := by
  cases party with
  | capture => exact RunState.move_stepCapture
  | inference => exact RunState.move_stepInference
  | stopper => exact .stops

theorem execute_append (setup : Setup σ τ α) (s : RunState σ τ α) (earlier later : List Party) :
    execute setup s (earlier ++ later) = execute setup (execute setup s earlier) later :=
  List.foldl_append

/-- What every move keeps that is allowed where it is made. -/
theorem execute_preserves_where {setup : Setup σ τ α}
    (holds : List (RunEvent α) → RunState σ τ α → Prop) (allowed : RunState σ τ α → Party → Prop)
    (kept : ∀ {past s party event next}, allowed s party → Move setup s party event next →
      holds past s → holds (past ++ event.toList) next)
    {schedule : List Party} {past : List (RunEvent α)} {s : RunState σ τ α}
    (only : ∀ earlier party later, schedule = earlier ++ party :: later →
      allowed (execute setup s earlier) party) (start : holds past s) :
    holds (past ++ events setup s schedule) (execute setup s schedule) := by
  induction schedule generalizing past s with
  | nil =>
    rw [events, List.append_nil]
    exact start
  | cons party rest ih =>
    rw [events, ← List.append_assoc]
    -- the first move is made where the schedule starts, the others behind it
    refine ih ?_ (kept (only [] party rest rfl) (move_step setup s party) start)
    intro earlier other later split
    exact only (party :: earlier) other later (congrArg (party :: ·) split)

/-- What every move of the allowed parties keeps holds at the end of a schedule of these parties. -/
theorem execute_preserves {setup : Setup σ τ α} (holds : List (RunEvent α) → RunState σ τ α → Prop)
    (allowed : Party → Prop)
    (kept : ∀ {past s party event next}, allowed party → Move setup s party event next →
      holds past s → holds (past ++ event.toList) next)
    {schedule : List Party} (only : ∀ party ∈ schedule, allowed party)
    {past : List (RunEvent α)} {s : RunState σ τ α} (start : holds past s) :
    holds (past ++ events setup s schedule) (execute setup s schedule) := by
  refine execute_preserves_where holds (fun _ => allowed) kept ?_ start
  rintro earlier party later rfl
  exact only party (List.mem_append_right earlier List.mem_cons_self)

/-- What every move keeps holds at the end of any schedule. -/
theorem execute_keeps {setup : Setup σ τ α} (holds : List (RunEvent α) → RunState σ τ α → Prop)
    (kept : ∀ {past s party event next}, Move setup s party event next → holds past s →
      holds (past ++ event.toList) next)
    {s : RunState σ τ α} (start : holds [] s) (schedule : List Party) :
    holds (events setup s schedule) (execute setup s schedule) :=
  execute_preserves holds (fun _ => True) (fun _ => kept) (fun _ _ => trivial) start

theorem execute_keeps_state {setup : Setup σ τ α} (holds : RunState σ τ α → Prop)
    (kept : ∀ {s party event next}, Move setup s party event next → holds s → holds next)
    {s : RunState σ τ α} (start : holds s) (schedule : List Party) :
    holds (execute setup s schedule) :=
  execute_keeps (fun _ => holds) kept start schedule

/-- A party does at most so much work as it has, if each of its steps lowers it and no other step
raises it. -/
theorem execute_lowers {setup : Setup σ τ α} (work : RunState σ τ α → Nat) (worker : Party)
    (holds : RunState σ τ α → Prop)
    (kept : ∀ {s party event next}, Move setup s party event next → holds s → holds next)
    (lowers : ∀ {s event next}, Move setup s worker event next → holds s → work next ≤ work s - 1)
    (raisesNot : ∀ {s party event next}, Move setup s party event next → holds s →
      party ≠ worker → work next ≤ work s)
    {s : RunState σ τ α} (start : holds s) (schedule : List Party) :
    work (execute setup s schedule) ≤ work s - schedule.count worker := by
  induction schedule generalizing s with
  | nil => exact Nat.le_refl _
  | cons party rest ih =>
    have move := move_step setup s party
    have later := ih (kept move start)
    show work (execute setup (step setup s party) rest) ≤ _
    -- only a step of the worker uses up one of its steps
    by_cases isWorker : party = worker
    · subst isWorker
      have lower := lowers move start
      rw [List.count_cons_self]
      omega
    · have notRaised := raisesNot move start isWorker
      rw [List.count_cons_of_ne isWorker]
      omega

theorem Move.inference_eq {setup : Setup σ τ α} {s next : RunState σ τ α} {party : Party}
    {event : Option (RunEvent α)} (move : Move setup s party event next)
    (other : party ≠ .inference) : next.inference = s.inference := by
  cases move with
  | inferenceTests | seesNothingNew | seesNoFace | seesFace | estimates | estimateFails
  | estimateCrashes | publishState | showState | observerCrashes | inferenceLeaves
  | inferenceRests => exact absurd rfl other
  | captureStops | captureAsks | face | noFace | streamEnds | sourceFails | sourceCrashes
  | publishFace | captureLeaves | captureRests | stops => rfl

theorem inference_execute (setup : Setup σ τ α) {s : RunState σ τ α} {schedule : List Party}
    (others : .inference ∉ schedule) : (execute setup s schedule).inference = s.inference := by
  induction schedule generalizing s with
  | nil => rfl
  | cons party rest ih =>
    rw [List.mem_cons, not_or] at others
    have first := (move_step setup s party).inference_eq (Ne.symm others.1)
    show (execute setup (step setup s party) rest).inference = s.inference
    rw [ih others.2, first]

end DriverMonitor
