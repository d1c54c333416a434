import DriverMonitor.Monitor.Cell
import DriverMonitor.Monitor.DriverState
import DriverMonitor.Monitor.Source

/-! # The two loops

Two loops run side by side. Capture asks the source for frames and publishes each face in the
landmark cell. Inference looks at that cell once a tick, estimates the driver's state from a face it
has not seen yet, publishes it in the result cell and shows it to an observer. Nothing is queued. Both
loops share a stop flag: each sets it when it ends, also by a crash, and anybody else may set it.

The loops are written as steps, each of which touches shared memory at most once. `step` takes one
step of one party, and any list of parties is a schedule; so what holds after every `execute` holds
under every interleaving. A party that is done stays where it is.

Inference reads the stop flag before it looks at the cell and leaves after the tick that saw it set.
That order is what makes it see the last face that capture published.
-/

namespace DriverMonitor

/-- What becomes of estimating the state from one face. -/
inductive Verdict (α : Type) where
  | state (s : DriverState α)
  | failed (f : Failure)
  | crashed

/-- Something that estimates states, and may remember what it has seen. -/
structure Estimator (τ α : Type) where
  estimate : τ → Face α → Verdict α × τ

/-- What the loops do not decide themselves. -/
structure Setup (σ τ α : Type) where
  source : Source σ α
  estimator : Estimator τ α
  /-- Whether the observer crashes, by the states it was shown, the last one first. -/
  observerCrashes : List (DriverState α) → Bool := fun _ => false

/-! ## State -/

/-- Frames that capture has seen. As for versions, no count is bounded: words of 64 bits show the same
until they are full. -/
structure CaptureCounts where
  frames : Nat := 0
  faces : Nat := 0
  misses : Nat := 0
  errors : Nat := 0
  deriving DecidableEq, Repr

/-- Ticks that inference has made, counted without bound as well. -/
structure InferenceCounts where
  ticks : Nat := 0
  published : Nat := 0
  /-- Ticks that found no new face. -/
  idle : Nat := 0
  failed : Nat := 0
  deriving DecidableEq, Repr

/-- What capture does next. -/
inductive CapturePhase (α : Type) where
  /-- Reads the stop flag. -/
  | testing
  /-- Asks the source. -/
  | calling
  | publishing (face : Face α)
  /-- Sets the stop flag. -/
  | leaving (crashed : Bool)
  | done (crashed : Bool)

/-- What inference does next. `last` says that the stop flag was set when the tick began. -/
inductive InferencePhase (α : Type) where
  /-- Reads the stop flag. -/
  | testing
  /-- Looks at the landmark cell. -/
  | looking (last : Bool)
  | estimating (last : Bool) (face : Face α)
  | publishing (last : Bool) (state : DriverState α)
  | observing (last : Bool) (state : DriverState α)
  /-- Sets the stop flag. -/
  | leaving (crashed : Bool)
  | done (crashed : Bool)

/-- A run of both loops in progress. -/
structure RunState (σ τ α : Type) where
  source : σ
  estimator : τ
  landmarks : Cell (Option (Face α))
  results : Cell (Option (DriverState α))
  stopped : Bool := false
  capture : CapturePhase α := .testing
  captured : CaptureCounts := {}
  inference : InferencePhase α := .testing
  /-- Version of the landmark cell that inference saw last. -/
  seen : Nat := 0
  inferred : InferenceCounts := {}
  /-- The states that the observer was shown, the last one first. -/
  observed : List (DriverState α) := []

/-! ## Steps -/

variable {σ τ α : Type}

namespace RunState

/-- What capture does with an answer of the source. -/
def receive (s : RunState σ τ α) : SourceCall α → RunState σ τ α
  | .gives (.ok (.face face)) =>
    { s with
      captured := { s.captured with frames := s.captured.frames + 1, faces := s.captured.faces + 1 }
      capture := .publishing face }
  | .gives (.ok .noFace) =>
    { s with
      captured := { s.captured with frames := s.captured.frames + 1, misses := s.captured.misses + 1 }
      capture := .testing }
  | .gives (.ok .endOfStream) => { s with capture := .leaving false }
  | .gives (.error _) =>
    { s with captured := { s.captured with errors := s.captured.errors + 1 }, capture := .testing }
  | .crashes => { s with capture := .leaving true }

def stepCapture (setup : Setup σ τ α) (s : RunState σ τ α) : RunState σ τ α :=
  match s.capture with
  | .testing => { s with capture := if s.stopped then .leaving false else .calling }
  | .calling =>
    let (call, source) := setup.source.next s.source
    { s with source }.receive call
  | .publishing face => { s with landmarks := s.landmarks.publish (some face), capture := .testing }
  | .leaving crashed => { s with stopped := true, capture := .done crashed }
  | .done _ => s

def endTick (s : RunState σ τ α) (last : Bool) : RunState σ τ α :=
  { s with inference := if last then .leaving false else .testing }

/-- A tick that found nothing new. -/
def idleTick (s : RunState σ τ α) (last : Bool) : RunState σ τ α :=
  { s with inferred := { s.inferred with idle := s.inferred.idle + 1 } }.endTick last

/-- What inference does with what it finds in the landmark cell. -/
def look (s : RunState σ τ α) (last : Bool) : RunState σ τ α :=
  let s := { s with inferred := { s.inferred with ticks := s.inferred.ticks + 1 } }
  match s.landmarks.newerThan? s.seen with
  | none => s.idleTick last
  | some (version, none) => { s with seen := version }.idleTick last
  | some (version, some face) => { s with seen := version, inference := .estimating last face }

def judge (s : RunState σ τ α) (last : Bool) : Verdict α → RunState σ τ α
  | .state state => { s with inference := .publishing last state }
  | .failed _ =>
    { s with inferred := { s.inferred with failed := s.inferred.failed + 1 } }.endTick last
  | .crashed => { s with inference := .leaving true }

def stepInference (setup : Setup σ τ α) (s : RunState σ τ α) : RunState σ τ α :=
  match s.inference with
  -- before the look at the cell: what was published before the flag was set is still seen
  | .testing => { s with inference := .looking s.stopped }
  | .looking last => s.look last
  | .estimating last face =>
    let (verdict, estimator) := setup.estimator.estimate s.estimator face
    { s with estimator }.judge last verdict
  | .publishing last state =>
    { s with
      results := s.results.publish (some state)
      inferred := { s.inferred with published := s.inferred.published + 1 }
      inference := .observing last state }
  | .observing last state =>
    let observed := state :: s.observed
    if setup.observerCrashes observed then { s with observed, inference := .leaving true }
    else { s with observed }.endTick last
  | .leaving crashed => { s with stopped := true, inference := .done crashed }
  | .done _ => s

end RunState

/-! ## Schedules -/

/-- Who takes a step. -/
inductive Party where
  | capture
  | inference
  /-- Sets the stop flag from outside. -/
  | stopper
  deriving DecidableEq, Repr

/-- One step of one party. -/
def step (setup : Setup σ τ α) (s : RunState σ τ α) : Party → RunState σ τ α
  | .capture => s.stepCapture setup
  | .inference => s.stepInference setup
  | .stopper => { s with stopped := true }

/-- The steps of a schedule. -/
def execute (setup : Setup σ τ α) (s : RunState σ τ α) (schedule : List Party) : RunState σ τ α :=
  schedule.foldl (step setup) s

/-! ## Runs -/

/-- What outlives a run: the two cells and what the estimator remembers. -/
structure Monitor (τ α : Type) where
  estimator : τ
  landmarks : Cell (Option (Face α)) := ⟨none, 0⟩
  results : Cell (Option (DriverState α)) := ⟨none, 0⟩

def Monitor.start (m : Monitor τ α) (source : σ) : RunState σ τ α :=
  { source, estimator := m.estimator, landmarks := m.landmarks, results := m.results }

/-- How a run ended. -/
inductive Ending where
  | finished (captured : CaptureCounts) (inferred : InferenceCounts)
  | sourceCrashed
  | failed (f : Failure)

namespace RunState

/-- What outlives the run. -/
def monitor (s : RunState σ τ α) : Monitor τ α :=
  ⟨s.estimator, s.landmarks, s.results⟩

/-- How the run ended, if it has. A crash of the source outweighs one of inference. -/
def ending? (s : RunState σ τ α) : Option Ending :=
  match s.capture, s.inference with
  | .done true, .done _ => some .sourceCrashed
  | .done false, .done true => some (.failed .inferenceCrashed)
  | .done false, .done false => some (.finished s.captured s.inferred)
  | _, _ => none

end RunState

end DriverMonitor
