import DriverMonitor.Proofs.Monitor.Faces
import DriverMonitor.Proofs.Recording.Lines

/-! # Capture from a recording

Unless somebody stops it, capture asks a recording once for each line that gives anything, and once
more to be told of the end. `Replays` is what it keeps: the answers so far and those to come make up
what the lines give, and the counts are those of the answers so far. That it comes to an end is a
matter of `captureWork`, which every step of capture lowers, whether stopped or not.
-/

namespace DriverMonitor

variable {τ : Type} {setup : Setup Recording τ Float} {past : List (RunEvent Float)} {party : Party}
variable {event : Option (RunEvent Float)} {s next : RunState Recording τ Float}
variable {outcomes given : List (Except Failure (Extraction Float))}

/-! ## Counting answers -/

def isFace : Except Failure (Extraction Float) → Bool
  | .ok (.face _) => true
  | _ => false

def isMiss : Except Failure (Extraction Float) → Bool
  | .ok .noFace => true
  | _ => false

def isFailure : Except Failure (Extraction Float) → Bool
  | .error _ => true
  | _ => false

def tally (given : List (Except Failure (Extraction Float))) : CaptureCounts where
  frames := given.countP isFace + given.countP isMiss
  faces := given.countP isFace
  misses := given.countP isMiss
  errors := given.countP isFailure

theorem frames_tally (frames : ∀ answer ∈ given, answer ≠ .ok .endOfStream) :
    (tally given).frames + (tally given).errors = given.length := by
  induction given with
  | nil => rfl
  | cons answer given ih =>
    obtain ⟨first, others⟩ := List.forall_mem_cons.mp frames
    have before := ih others
    simp only [tally, List.countP_cons, List.length_cons] at before ⊢
    match answer, first with
    | .ok (.face _), _ | .ok .noFace, _ | .error _, _ =>
      simp only [isFace, isMiss, isFailure, Bool.false_eq_true, if_true, if_false]
      omega

/-! ## Answers of a recording -/

namespace Source

variable {r later : Recording}

/-- The source gives the first of the outcomes that are left. -/
theorem recording_gives {outcome : Except Failure (Extraction Float)}
    (answer : Source.recording.next r = (.gives outcome, later)) (frame : outcome ≠ .ok .endOfStream) :
    r.outcomes = outcome :: later.outcomes := by
  obtain ⟨gives, rfl⟩ := Prod.mk.inj answer
  have gives : r.next.1 = outcome := SourceCall.gives.inj gives
  cases rest : r.outcomes with
  | nil => exact absurd (gives.symm.trans (Recording.next_of_outcomes_nil rest).1) frame
  | cons first others =>
    obtain ⟨given, left⟩ := Recording.next_of_outcomes_cons rest
    rw [← given, gives]
    exact congrArg (outcome :: ·) left.symm

theorem recording_ends (answer : Source.recording.next r = (.gives (.ok .endOfStream), later)) :
    r.outcomes = [] ∧ later.outcomes = [] := by
  obtain ⟨ends, rfl⟩ := Prod.mk.inj answer
  cases rest : r.outcomes with
  | nil => exact ⟨rfl, (Recording.next_of_outcomes_nil rest).2⟩
  | cons first others =>
    have given : r.next.1 = first := (Recording.next_of_outcomes_cons rest).1
    have frame := Recording.ne_endOfStream_of_mem_outcomes (rest ▸ List.mem_cons_self)
    exact absurd (given.symm.trans (SourceCall.gives.inj ends)) frame

end Source

namespace CapturePhase

def lastAnswer : CapturePhase Float → List (Except Failure (Extraction Float))
  | .leaving _ | .done _ => [.ok .endOfStream]
  | _ => []

def endsCalmly : CapturePhase Float → Prop
  | .leaving crashed | .done crashed => crashed = false
  | _ => True

theorem endsCalmly_of_lastAnswer_eq_nil {phase : CapturePhase Float} (goesOn : phase.lastAnswer = []) :
    phase.endsCalmly := by
  cases phase with
  | testing | calling | publishing => trivial
  | leaving | done => cases goesOn

end CapturePhase

/-- Capture has been given some of the outcomes, and the source has the others. -/
structure Replays (outcomes : List (Except Failure (Extraction Float)))
    (past : List (RunEvent Float)) (s : RunState Recording τ Float) : Prop where
  split : ∃ given, outcomes = given ++ s.source.outcomes ∧ s.captured = tally given ∧
    sourceCalls past = (given ++ s.capture.lastAnswer).map .gives
  exhausted : s.capture.lastAnswer ≠ [] → s.source.outcomes = []
  calm : s.capture.endsCalmly

theorem Replays.keeps (replays : Replays outcomes past s) (silent : sourceCalls event.toList = [])
    (source : next.source = s.source) (captured : next.captured = s.captured)
    (lastAnswer : next.capture.lastAnswer = s.capture.lastAnswer) (calm : next.capture.endsCalmly) :
    Replays outcomes (past ++ event.toList) next := by
  obtain ⟨⟨given, split, counts, calls⟩, exhausted, -⟩ := replays
  refine ⟨⟨given, ?_, ?_, ?_⟩, ?_, calm⟩
  · rw [source, split]
  · rw [captured, counts]
  · rw [sourceCalls_append, silent, List.append_nil, calls, lastAnswer]
  · rw [source, lastAnswer]
    exact exhausted

/-- Capture is given one more outcome. -/
theorem Replays.gives (replays : Replays outcomes past s) (phase : s.capture = .calling)
    {outcome : Except Failure (Extraction Float)} {source : Recording}
    (rest : s.source.outcomes = outcome :: source.outcomes) {after : CapturePhase Float}
    (goesOn : after.lastAnswer = []) {captured : CaptureCounts}
    (counted : ∀ given, s.captured = tally given → captured = tally (given ++ [outcome])) :
    Replays outcomes (past ++ [.asked (.gives outcome)])
      { s with source, captured, capture := after } := by
  obtain ⟨⟨given, split, counts, calls⟩, -, -⟩ := replays
  refine ⟨⟨given ++ [outcome], ?_, counted given counts, ?_⟩, fun ends => absurd goesOn ends,
    CapturePhase.endsCalmly_of_lastAnswer_eq_nil goesOn⟩
  · rw [split, rest, List.append_assoc]
    rfl
  · rw [phase] at calls
    rw [sourceCalls_append, calls, goesOn]
    simp [sourceCalls, RunEvent.call?, CapturePhase.lastAnswer]

def Unstopped (s : RunState Recording τ Float) (party : Party) : Prop :=
  party = .capture → s.capture = .testing → s.stopped = false

theorem tally_face (given : List (Except Failure (Extraction Float))) (face : Face Float) :
    tally (given ++ [.ok (.face face)]) =
      { tally given with frames := (tally given).frames + 1, faces := (tally given).faces + 1 } := by
  simp [tally, List.countP_append, isFace, isMiss, isFailure]
  omega

theorem tally_noFace (given : List (Except Failure (Extraction Float))) :
    tally (given ++ [.ok .noFace]) =
      { tally given with frames := (tally given).frames + 1, misses := (tally given).misses + 1 } := by
  simp [tally, List.countP_append, isFace, isMiss, isFailure]
  omega

theorem tally_error (given : List (Except Failure (Extraction Float))) (failure : Failure) :
    tally (given ++ [.error failure]) =
      { tally given with errors := (tally given).errors + 1 } := by
  simp [tally, List.countP_append, isFace, isMiss, isFailure]

theorem Replays.move (replays : Replays outcomes past s) (recorded : setup.source = .recording)
    (unstopped : Unstopped s party) (move : Move setup s party event next) :
    Replays outcomes (past ++ event.toList) next := by
  cases move with
  | captureStops phase stopped =>
    rw [unstopped rfl phase] at stopped
    cases stopped
  -- asking, publishing and leaving give no answer
  | captureAsks phase _ => exact replays.keeps rfl rfl rfl (by rw [phase]; rfl) trivial
  | publishFace phase => exact replays.keeps rfl rfl rfl (by rw [phase]; rfl) trivial
  | captureLeaves phase =>
    have calm := replays.calm
    rw [phase] at calm
    exact replays.keeps rfl rfl rfl (by rw [phase]; rfl) calm
  -- an answer is the next outcome of the recording, and is counted as what it is
  | face phase answer =>
    rw [recorded] at answer
    refine replays.gives phase (Source.recording_gives answer nofun) rfl ?_
    intro given counts
    rw [tally_face, counts]
  | noFace phase answer =>
    rw [recorded] at answer
    refine replays.gives phase (Source.recording_gives answer nofun) rfl ?_
    intro given counts
    rw [tally_noFace, counts]
  | sourceFails phase answer =>
    rw [recorded] at answer
    refine replays.gives phase (Source.recording_gives answer nofun) rfl ?_
    intro given counts
    rw [tally_error, counts]
  | streamEnds phase answer =>
    rw [recorded] at answer
    obtain ⟨nothing, left⟩ := Source.recording_ends answer
    obtain ⟨⟨given, split, counts, calls⟩, -, -⟩ := replays
    refine ⟨⟨given, ?_, counts, ?_⟩, fun _ => left, rfl⟩
    · rw [split, nothing, left]
    · rw [phase] at calls
      rw [Option.toList_some, sourceCalls_append, calls]
      simp [sourceCalls, RunEvent.call?, CapturePhase.lastAnswer]
  -- a recording never crashes
  | sourceCrashes phase answer =>
    rw [recorded] at answer
    cases answer
  -- no other step changes capture or its counts
  | captureRests | inferenceTests | seesNothingNew | seesNoFace | seesFace | estimates
  | estimateFails | estimateCrashes | publishState | showState | observerCrashes | inferenceLeaves
  | inferenceRests | stops => exact replays.keeps rfl rfl rfl rfl replays.calm

/-! ## The end of capture -/

/-- How many steps capture has yet to take at most. -/
def captureWork (s : RunState Recording τ Float) : Nat :=
  match s.capture with
  | .testing => 3 * s.source.outcomes.length + 3
  | .calling => 3 * s.source.outcomes.length + 2
  | .publishing _ => 3 * s.source.outcomes.length + 4
  | .leaving _ => 1
  | .done _ => 0

/-- Every step of capture brings it nearer to the end of the recording. -/
theorem captureWork_capture (recorded : setup.source = .recording)
    (move : Move setup s .capture event next) : captureWork next ≤ captureWork s - 1 := by
  cases move with
  | captureStops phase | captureAsks phase | publishFace phase | captureLeaves phase
  | captureRests phase =>
    simp only [captureWork, phase]
    omega
  | face phase answer | noFace phase answer | sourceFails phase answer =>
    rw [recorded] at answer
    simp only [captureWork, phase, Source.recording_gives answer nofun, List.length_cons]
    omega
  | streamEnds phase answer | sourceCrashes phase answer =>
    simp only [captureWork, phase]
    omega

theorem captureWork_other (other : party ≠ .capture) (move : Move setup s party event next) :
    captureWork next = captureWork s := by
  cases move with
  | captureStops | captureAsks | face | noFace | streamEnds | sourceFails | sourceCrashes
  | publishFace | captureLeaves | captureRests => exact absurd rfl other
  | inferenceTests | seesNothingNew | seesNoFace | seesFace | estimates | estimateFails
  | estimateCrashes | publishState | showState | observerCrashes | inferenceLeaves | inferenceRests
  | stops => rfl

theorem captureWork_execute (recorded : setup.source = .recording)
    (s : RunState Recording τ Float) (schedule : List Party) :
    captureWork (execute setup s schedule) ≤ captureWork s - schedule.count .capture :=
  execute_lowers captureWork .capture (fun _ => True) (fun _ _ => trivial)
    (fun move _ => captureWork_capture recorded move)
    (fun move _ other => Nat.le_of_eq (captureWork_other other move)) trivial schedule

theorem done_of_captureWork_eq_zero (finished : captureWork s = 0) :
    ∃ crashed, s.capture = .done crashed := by
  cases phase : s.capture with
  | done crashed => exact ⟨crashed, rfl⟩
  | testing | calling | publishing | leaving =>
    simp only [captureWork, phase] at finished
    omega

/-! ## Whole recordings -/

namespace Recording

theorem length_outcomes_ofBytes (bytes : List UInt8) :
    (ofBytes bytes).outcomes.length = ((splitLines bytes).filter givesAnswer).length := by
  rw [← List.countP_eq_length_filter]
  exact length_lineOutcomes _ _

/-- The calls of a recording give its outcomes and then its end. -/
theorem outcomes_append_end (r : Recording) :
    r.outcomes ++ [.ok .endOfStream] = (List.range (r.outcomes.length + 1)).map r.answer := by
  rw [List.range_succ, List.map_append, List.map_singleton, answer_eq,
    List.getElem?_eq_none (Nat.le_refl _)]
  congr 1
  refine List.ext_getElem (by simp) fun n inside _ => ?_
  rw [List.getElem_map, List.getElem_range, answer_eq, List.getElem?_eq_getElem inside]
  rfl

/-- A property that does not depend on the number of a line is counted line by line. -/
theorem countP_lineOutcomes {p : Except Failure (Extraction Float) → Bool}
    (indifferent : ∀ a b, p (.error (.extraction (.unreadableLine a))) =
      p (.error (.extraction (.unreadableLine b)))) (lines : List (List UInt8)) (count number : Nat) :
    (lineOutcomes lines count).countP p =
      (lines.filter givesAnswer).countP fun line => p (outcome line number) := by
  have same (line : List UInt8) (n : Nat) : p (outcome line n) = p (outcome line number) := by
    obtain same | unreadable := outcome_number line
    · rw [same n number]
    · rw [unreadable, unreadable, indifferent]
  induction lines generalizing count with
  | nil => rfl
  | cons line lines ih =>
    rw [lineOutcomes, List.countP_append, ih]
    cases answers : givesAnswer line with
    | false => simp [answers]
    | true =>
      have here := same line (count + 1)
      simp [answers, List.countP_cons, here]
      omega

end Recording

theorem replays_start (m : Monitor τ Float) (r : Recording) :
    Replays r.outcomes [] (m.start r) :=
  ⟨⟨[], rfl, rfl, rfl⟩, fun ends => absurd rfl ends, trivial⟩

/-- Capture that is never stopped has asked a recording for all it gives, and for its end. -/
theorem capture_of_recording (recorded : setup.source = .recording) (m : Monitor τ Float)
    (r : Recording) {schedule : List Party}
    (unstopped : ∀ earlier party later, schedule = earlier ++ party :: later →
      Unstopped (execute setup (m.start r) earlier) party)
    (long : 3 * (r.outcomes.length + 1) ≤ schedule.count .capture) :
    let last := execute setup (m.start r) schedule
    last.capture = .done false ∧ last.captured = tally r.outcomes ∧
      sourceCalls (events setup (m.start r) schedule) =
        (r.outcomes ++ [Except.ok Extraction.endOfStream]).map .gives := by
  intro last
  have work := captureWork_execute recorded (m.start r) schedule
  have start : captureWork (m.start r) = 3 * r.outcomes.length + 3 := rfl
  -- every answer takes capture at most three steps, and so does the end
  have finished : captureWork (execute setup (m.start r) schedule) = 0 := by omega
  obtain ⟨crashed, captureDone⟩ := done_of_captureWork_eq_zero finished
  have replays := execute_preserves_where (Replays r.outcomes) Unstopped
    (fun allowed move replays => replays.move recorded allowed move) unstopped (replays_start m r)
  rw [List.nil_append] at replays
  obtain ⟨⟨given, split, counts, calls⟩, exhausted, calm⟩ := replays
  rw [captureDone] at calls exhausted calm
  rw [exhausted nofun, List.append_nil] at split
  subst split
  exact ⟨captureDone.trans (congrArg _ calm), counts, calls⟩

/-- A recording is read line by line: of the lines of its bytes, those that are not blank texts give
one answer each, in order and independently of the others, and then the stream ends for good. Capture
that is never stopped asks for just these answers, and its counts are those of the lines. -/
theorem recording_read_line_by_line {τ : Type} (bytes : List UInt8) (estimator : Estimator τ Float)
    (observerCrashes : List (DriverState Float) → Bool) (m : Monitor τ Float) :
    let r := Recording.ofBytes bytes
    let setup : Setup Recording τ Float := { source := .recording, estimator, observerCrashes }
    (∀ line number, Recording.outcome line number ≠ .ok .endOfStream) ∧
    (∀ line, (∀ a b, Recording.outcome line a = Recording.outcome line b) ∨
      ∀ number, Recording.outcome line number = .error (.extraction (.unreadableLine number))) ∧
    ∃ lines, (∀ others, IsLines bytes others ↔ others = lines) ∧
      let kept := lines.filter Recording.givesAnswer
      (∀ earlier line later, lines = earlier ++ line :: later → Recording.givesAnswer line = true →
        r.answer (earlier.filter Recording.givesAnswer).length =
          Recording.outcome line (earlier.countP Recording.isText + 1)) ∧
      (∀ n, kept.length ≤ n → r.answer n = .ok .endOfStream) ∧
      ∀ schedule,
        (∀ earlier later, schedule = earlier ++ .capture :: later →
          (execute setup (m.start r) earlier).capture = .testing →
          (execute setup (m.start r) earlier).stopped = false) →
        3 * (kept.length + 1) ≤ schedule.count .capture →
          let last := execute setup (m.start r) schedule
          last.capture = .done false ∧
            sourceCalls (events setup (m.start r) schedule) =
              (List.range (kept.length + 1)).map (fun n => .gives (r.answer n)) ∧
            last.captured.frames + last.captured.errors = kept.length ∧
            ∀ number,
              last.captured.faces = kept.countP (fun line => isFace (Recording.outcome line number)) ∧
              last.captured.misses = kept.countP (fun line => isMiss (Recording.outcome line number)) := by
  intro r setup
  refine ⟨Recording.outcome_ne_endOfStream, Recording.outcome_number, splitLines bytes, ?_, ?_⟩
  · intro others
    constructor
    · exact IsLines.eq_splitLines
    · rintro rfl
      exact isLines_splitLines bytes
  intro kept
  have length : r.outcomes.length = kept.length := Recording.length_outcomes_ofBytes bytes
  refine ⟨?_, ?_, ?_⟩
  · intro earlier line later split answers
    rw [← List.countP_eq_length_filter]
    exact Recording.answer_of_line split answers
  · intro n beyond
    apply Recording.answer_after_lines
    rw [List.countP_eq_length_filter]
    exact beyond
  · intro schedule unstopped long last
    -- only capture stops capture, and only where it tests the flag
    have allowed : ∀ earlier party later, schedule = earlier ++ party :: later →
        Unstopped (execute setup (m.start r) earlier) party := by
      rintro earlier party later split rfl
      exact unstopped earlier later split
    obtain ⟨captureDone, counts, calls⟩ := capture_of_recording rfl m r allowed (length ▸ long)
    refine ⟨captureDone, ?_, ?_, ?_⟩
    · rw [calls, Recording.outcomes_append_end, length, List.map_map]
      rfl
    · rw [counts, frames_tally fun _ => Recording.ne_endOfStream_of_mem_outcomes, length]
    · intro number
      rw [counts]
      exact ⟨Recording.countP_lineOutcomes (fun _ _ => rfl) _ _ number,
        Recording.countP_lineOutcomes (fun _ _ => rfl) _ _ number⟩

/-- A line that is no frame, one that is no text, a blank one, and a frame without a face at the end of
the file. -/
theorem recording_read_line_by_line_mixed_lines :
    let bytes : List UInt8 := [0x78, 0x0a, 0xff, 0x0d, 0x0a, 0x20, 0x0a, 0x5b, 0x5d]
    let estimator : Estimator Nat Float := ⟨fun calls _ => (.crashed, calls)⟩
    let setup : Setup Recording Nat Float := { source := .recording, estimator }
    let m : Monitor Nat Float := { estimator := 0 }
    let last := execute setup (m.start (.ofBytes bytes)) (.replicate 12 .capture)
    last.capture = .done false ∧ last.captured.frames + last.captured.errors = 3 ∧
      last.captured.faces = 0 ∧ last.captured.misses = 1 := by
  intro bytes estimator setup m last
  obtain ⟨-, -, lines, only, -, -, captured⟩ :=
    recording_read_line_by_line bytes estimator (fun _ => false) m
  have split : lines = [[0x78], [0xff], [0x20], [0x5b, 0x5d]] := by
    rw [← (only _).mp (isLines_splitLines bytes)]
    decide
  have kept : lines.filter Recording.givesAnswer = [[0x78], [0xff], [0x5b, 0x5d]] := by
    rw [split]
    decide +kernel
  rw [kept] at captured
  have unstopped : ∀ earlier later,
      List.replicate 12 Party.capture = earlier ++ .capture :: later →
      (execute setup (m.start (.ofBytes bytes)) earlier).capture = .testing →
      (execute setup (m.start (.ofBytes bytes)) earlier).stopped = false := by
    intro earlier later split phase
    have captures : ∀ party ∈ earlier, party = .capture := by
      intro party before
      have scheduled := List.mem_append_left (.capture :: later) before
      rw [← split] at scheduled
      exact List.eq_of_mem_replicate scheduled
    have notInference : Party.inference ∉ earlier := fun before => nomatch captures _ before
    have notStopper : Party.stopper ∉ earlier := fun before => nomatch captures _ before
    have closing := closing_execute setup m (.ofBytes bytes) notStopper
    rw [← Bool.not_eq_true]
    intro set
    -- the flag is set by a loop that is done, and neither is
    obtain ⟨crashed, captureDone⟩ | ⟨crashed, inferenceDone⟩ := closing.setBy set
    · rw [phase] at captureDone
      cases captureDone
    · rw [inference_execute setup notInference] at inferenceDone
      cases inferenceDone
  obtain ⟨captureDone, -, frames, counts⟩ := captured (.replicate 12 .capture) unstopped (by decide)
  refine ⟨captureDone, ?_, ?_, ?_⟩
  · rw [frames]
    rfl
  · rw [(counts 0).1]
    decide +kernel
  · rw [(counts 0).2]
    decide +kernel

end DriverMonitor
