import DriverMonitor.Proofs.Monitor.Events

/-! # After the stop flag is set

Once the flag is set, whoever set it, capture asks at most once more and inference begins at most
one more tick, and then both end. Each of them sets the flag when it ends, also by a crash, so the
end of one is the end of both.
-/

namespace DriverMonitor

variable {σ τ α : Type} {setup : Setup σ τ α} {past : List (RunEvent α)} {party : Party}
variable {event : Option (RunEvent α)} {s next : RunState σ τ α}

/-! ## What is left to do -/

namespace CapturePhase

/-- How often the source may still be asked once the flag is set. -/
def callsLeft : CapturePhase α → Nat
  | .calling => 1
  | _ => 0

def stepsLeft : CapturePhase α → Nat
  | .calling => 4
  | .publishing _ => 3
  | .testing => 2
  | .leaving _ => 1
  | .done _ => 0

theorem callsLeft_le_one (phase : CapturePhase α) : phase.callsLeft ≤ 1 := by
  cases phase <;> simp [callsLeft]

/-- A call that is under way is answered, its face published and the flag read, and capture leaves. -/
theorem stepsLeft_le_four (phase : CapturePhase α) : phase.stepsLeft ≤ 4 := by
  cases phase <;> simp [stepsLeft]

theorem done_of_stepsLeft {phase : CapturePhase α} (nothing : phase.stepsLeft = 0) :
    ∃ crashed, phase = .done crashed := by
  cases phase with
  | done crashed => exact ⟨crashed, rfl⟩
  | testing | calling | publishing | leaving => cases nothing

end CapturePhase

namespace InferencePhase

/-- How many ticks may still begin once the flag is set: one, unless the tick that saw it set has
begun. -/
def ticksLeft : InferencePhase α → Nat
  | .testing => 1
  | .looking last | .estimating last _ | .publishing last _ | .observing last _ => (!last).toNat
  | .leaving _ | .done _ => 0

/-- How many steps are left at most once the flag is set. A tick before the last one takes five. -/
def stepsLeft : InferencePhase α → Nat
  | .looking last => 5 + 5 * (!last).toNat
  | .estimating last _ => 4 + 5 * (!last).toNat
  | .publishing last _ => 3 + 5 * (!last).toNat
  | .observing last _ => 2 + 5 * (!last).toNat
  | .testing => 6
  | .leaving _ => 1
  | .done _ => 0

theorem ticksLeft_afterTick (last : Bool) :
    (afterTick last : InferencePhase α).ticksLeft = (!last).toNat := by
  cases last <;> rfl

theorem stepsLeft_afterTick (last : Bool) :
    (afterTick last : InferencePhase α).stepsLeft = 1 + 5 * (!last).toNat := by
  cases last <;> rfl

theorem ticksLeft_le_one (phase : InferencePhase α) : phase.ticksLeft ≤ 1 := by
  cases phase with
  | testing | leaving | done => simp [ticksLeft]
  | looking last | estimating last | publishing last | observing last => exact Bool.toNat_le _

/-- The longest way leads through a tick that has just begun and the last one. -/
theorem stepsLeft_le_ten (phase : InferencePhase α) : phase.stepsLeft ≤ 10 := by
  cases phase with
  | testing | leaving | done => simp [stepsLeft]
  | looking last | estimating last | publishing last | observing last =>
    have atMost := Bool.toNat_le (!last)
    simp only [stepsLeft]
    omega

theorem done_of_stepsLeft {phase : InferencePhase α} (nothing : phase.stepsLeft = 0) :
    ∃ crashed, phase = .done crashed := by
  cases phase with
  | done crashed => exact ⟨crashed, rfl⟩
  | testing | leaving => cases nothing
  | looking | estimating | publishing | observing =>
    simp only [stepsLeft] at nothing
    omega

end InferencePhase

/-- How many ticks have begun. A tick begins when the stop flag is read for it, and is counted when
it looks at the cell. -/
def RunState.ticksBegun (s : RunState σ τ α) : Nat :=
  s.inferred.ticks + match s.inference with
    | .looking _ => 1
    | _ => 0

theorem InferencePhase.notLooking_afterTick (last : Bool) :
    (match (afterTick last : InferencePhase α) with | .looking _ => 1 | _ => 0) = 0 := by
  cases last <;> rfl

/-! ## Steps -/

namespace Move

/-- Nobody clears the flag. -/
theorem stopped_of_stopped (move : Move setup s party event next) (set : s.stopped = true) :
    next.stopped = true := by
  cases move with
  | captureLeaves | inferenceLeaves | stops => rfl
  | _ => exact set

theorem capture_eq (move : Move setup s party event next) (other : party ≠ .capture) :
    next.capture = s.capture := by
  cases move with
  | captureStops | captureAsks | face | noFace | streamEnds | sourceFails | sourceCrashes
  | publishFace | captureLeaves | captureRests => exact absurd rfl other
  | _ => rfl

/-- Capture reads the flag between any two calls. -/
theorem callsLeft_le (move : Move setup s party event next) (set : s.stopped = true) :
    (sourceCalls event.toList).length + next.capture.callsLeft ≤ s.capture.callsLeft := by
  cases move with
  | captureAsks phase running =>
    -- capture goes on to ask only if it finds the flag clear
    rw [running] at set
    cases set
  | captureStops phase | face phase | noFace phase | streamEnds phase | sourceFails phase
  | sourceCrashes phase | publishFace phase | captureLeaves phase =>
    rw [phase]
    exact Nat.le_refl _
  | _ => exact Nat.le_of_eq (Nat.zero_add _)

/-- Inference reads the flag between any two ticks, and makes one more after it saw it set. -/
theorem ticksLeft_le (move : Move setup s party event next) (set : s.stopped = true) :
    next.ticksBegun + next.inference.ticksLeft ≤ s.ticksBegun + s.inference.ticksLeft := by
  cases move with
  | inferenceTests phase =>
    -- the tick that begins here reads a flag that is set
    simp only [RunState.ticksBegun, phase, InferencePhase.ticksLeft, set]
    exact Nat.le_refl _
  | seesNothingNew phase | seesNoFace phase | estimateFails phase | showState phase =>
    simp only [RunState.ticksBegun, phase, InferencePhase.notLooking_afterTick,
      InferencePhase.ticksLeft_afterTick]
    simp only [InferencePhase.ticksLeft]
    omega
  | seesFace phase | estimates phase | estimateCrashes phase | publishState phase
  | observerCrashes phase | inferenceLeaves phase =>
    simp only [RunState.ticksBegun, phase, InferencePhase.ticksLeft]
    omega
  | _ => exact Nat.le_refl _

theorem capture_stepsLeft_le (move : Move setup s .capture event next) (set : s.stopped = true) :
    next.capture.stepsLeft ≤ s.capture.stepsLeft - 1 := by
  cases move with
  | captureAsks phase running =>
    rw [running] at set
    cases set
  | captureStops phase | face phase | noFace phase | streamEnds phase | sourceFails phase
  | sourceCrashes phase | publishFace phase | captureLeaves phase | captureRests phase =>
    rw [phase]
    simp [CapturePhase.stepsLeft]

theorem inference_stepsLeft_le (move : Move setup s .inference event next)
    (set : s.stopped = true) : next.inference.stepsLeft ≤ s.inference.stepsLeft - 1 := by
  cases move with
  | inferenceTests phase =>
    rw [phase, set]
    exact Nat.le_refl _
  | seesNothingNew phase | seesNoFace phase | estimateFails phase | showState phase =>
    rw [phase, InferencePhase.stepsLeft_afterTick]
    simp only [InferencePhase.stepsLeft]
    omega
  | seesFace phase | estimates phase | estimateCrashes phase | publishState phase
  | observerCrashes phase | inferenceLeaves phase | inferenceRests phase =>
    simp only [phase, InferencePhase.stepsLeft]
    omega

end Move

/-! ## Runs -/

structure Winding (before : RunState σ τ α) (past : List (RunEvent α)) (s : RunState σ τ α) :
    Prop where
  stopped : s.stopped = true
  calls : (sourceCalls past).length + s.capture.callsLeft ≤ 1
  ticks : s.ticksBegun + s.inference.ticksLeft ≤ before.ticksBegun + 1

theorem Winding.start (set : s.stopped = true) : Winding s [] s := by
  refine ⟨set, ?_, Nat.add_le_add_left s.inference.ticksLeft_le_one _⟩
  show 0 + s.capture.callsLeft ≤ 1
  rw [Nat.zero_add]
  exact s.capture.callsLeft_le_one

theorem Winding.move {before : RunState σ τ α} (winding : Winding before past s)
    (move : Move setup s party event next) : Winding before (past ++ event.toList) next := by
  obtain ⟨stopped, calls, ticks⟩ := winding
  have fewerCalls := move.callsLeft_le stopped
  have fewerTicks := move.ticksLeft_le stopped
  refine ⟨move.stopped_of_stopped stopped, ?_, Nat.le_trans fewerTicks ticks⟩
  rw [sourceCalls_append, List.length_append]
  omega

variable (setup) in
/-- What may still come is bounded in the state in which the flag was set, for any schedule from there.
-/
theorem winding_execute (set : s.stopped = true) (schedule : List Party) :
    Winding s (events setup s schedule) (execute setup s schedule) :=
  execute_keeps (Winding s) (fun move winding => winding.move move) (.start set) schedule

variable (setup) in
/-- Four steps of its own end capture, whatever the others do meanwhile. -/
theorem capture_done_of_stopped (set : s.stopped = true) {schedule : List Party}
    (steps : 4 ≤ schedule.count .capture) :
    ∃ crashed, (execute setup s schedule).capture = .done crashed := by
  have left : (execute setup s schedule).capture.stepsLeft ≤
      s.capture.stepsLeft - schedule.count .capture := by
    refine execute_lowers (fun s => s.capture.stepsLeft) .capture (fun s => s.stopped = true)
      (fun move => move.stopped_of_stopped) (fun move => move.capture_stepsLeft_le) ?_ set _
    intro s party event next move _ other
    exact Nat.le_of_eq (congrArg CapturePhase.stepsLeft (move.capture_eq other))
  have atMost := s.capture.stepsLeft_le_four
  exact CapturePhase.done_of_stepsLeft (by omega)

variable (setup) in
/-- Ten steps of its own end inference, whatever the others do meanwhile. -/
theorem inference_done_of_stopped (set : s.stopped = true) {schedule : List Party}
    (steps : 10 ≤ schedule.count .inference) :
    ∃ crashed, (execute setup s schedule).inference = .done crashed := by
  have left : (execute setup s schedule).inference.stepsLeft ≤
      s.inference.stepsLeft - schedule.count .inference := by
    refine execute_lowers (fun s => s.inference.stepsLeft) .inference (fun s => s.stopped = true)
      (fun move => move.stopped_of_stopped) (fun move => move.inference_stepsLeft_le) ?_ set _
    intro s party event next move _ other
    exact Nat.le_of_eq (congrArg InferencePhase.stepsLeft (move.inference_eq other))
  have atMost := s.inference.stepsLeft_le_ten
  exact InferencePhase.done_of_stepsLeft (by omega)

theorem RunState.ended_iff : s.ending?.isSome ↔
    (∃ crashed, s.capture = .done crashed) ∧ ∃ crashed, s.inference = .done crashed := by
  constructor
  · intro ended
    unfold ending? at ended
    split at ended
    next captureDone inferenceDone => exact ⟨⟨_, captureDone⟩, _, inferenceDone⟩
    next captureDone inferenceDone => exact ⟨⟨_, captureDone⟩, _, inferenceDone⟩
    next captureDone inferenceDone => exact ⟨⟨_, captureDone⟩, _, inferenceDone⟩
    next => cases ended
  · rintro ⟨⟨captureCrashed, captureDone⟩, inferenceCrashed, inferenceDone⟩
    rw [ending?, captureDone, inferenceDone]
    cases captureCrashed <;> cases inferenceCrashed <;> rfl

variable (setup) in
theorem ends_of_stopped (set : s.stopped = true) {schedule : List Party}
    (captureSteps : 4 ≤ schedule.count .capture)
    (inferenceSteps : 10 ≤ schedule.count .inference) :
    (execute setup s schedule).ending?.isSome :=
  RunState.ended_iff.mpr ⟨capture_done_of_stopped setup set captureSteps,
    inference_done_of_stopped setup set inferenceSteps⟩

/-! ## Ends -/

structure EndsSet (s : RunState σ τ α) : Prop where
  capture : ∀ crashed, s.capture = .done crashed → s.stopped = true
  inference : ∀ crashed, s.inference = .done crashed → s.stopped = true

theorem InferencePhase.afterTick_ne_done (last crashed : Bool) :
    (afterTick last : InferencePhase α) ≠ .done crashed := by
  cases last <;> exact nofun

theorem EndsSet.move (ends : EndsSet s) (move : Move setup s party event next) : EndsSet next := by
  obtain ⟨capture, inference⟩ := ends
  cases move with
  | captureLeaves | inferenceLeaves | stops => exact ⟨fun _ _ => rfl, fun _ _ => rfl⟩
  | captureRests | inferenceRests => exact ⟨capture, inference⟩
  | captureStops | captureAsks | face | noFace | streamEnds | sourceFails | sourceCrashes
  | publishFace => exact ⟨nofun, inference⟩
  | seesNothingNew | seesNoFace | estimateFails | showState =>
    exact ⟨capture, fun _ ended => absurd ended (InferencePhase.afterTick_ne_done _ _)⟩
  | inferenceTests | seesFace | estimates | estimateCrashes | publishState | observerCrashes =>
    exact ⟨capture, nofun⟩

/-- A loop sets the flag on its way out, however it ends. -/
theorem endsSet_execute (setup : Setup σ τ α) (m : Monitor τ α) (source : σ)
    (schedule : List Party) : EndsSet (execute setup (m.start source) schedule) := by
  have start : EndsSet (m.start source) := ⟨nofun, nofun⟩
  exact execute_keeps_state EndsSet (fun move ends => ends.move move) start schedule

end DriverMonitor
