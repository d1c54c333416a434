import DriverMonitor.Monitor.Pipeline

/-! # Running in lockstep

Of all schedules one makes every answer predictable: inference goes first whenever it has something
to do, so that each face is estimated before the source is asked again, and exactly once. This is the
schedule of a machine that is fast enough. A frame may ask for the run to be stopped while it is
being delivered.
-/

namespace DriverMonitor

variable {σ τ α : Type}

/-- Whether inference is inside a tick, has a face to see, or has to end because capture did. -/
def RunState.inferenceIsDue (s : RunState σ τ α) : Bool :=
  match s.inference, s.capture with
  | .done _, _ => false
  | .testing, .done _ => true
  | .testing, _ => s.seen < s.landmarks.version
  | _, _ => true

/-- Who goes next, until both loops are done. -/
def RunState.nextParty? (stopsDuring : σ → Bool) (s : RunState σ τ α) : Option Party :=
  if s.inferenceIsDue then some .inference
  else
    match s.capture with
    | .done _ => none
    | .calling => if stopsDuring s.source ∧ ¬ s.stopped then some .stopper else some .capture
    | _ => some .capture

/-- At most so many steps in lockstep. -/
def runLockstep (setup : Setup σ τ α) (stopsDuring : σ → Bool) :
    Nat → RunState σ τ α → RunState σ τ α
  | 0, s => s
  | steps + 1, s =>
    match s.nextParty? stopsDuring with
    | none => s
    | some party => runLockstep setup stopsDuring steps (step setup s party)

/-- Steps that a run in lockstep takes at most when its source gives so many answers before the end
of the stream. -/
def lockstepBound (answers : Nat) : Nat := 12 * (answers + 3)

/-! ## Estimators -/

/-- The estimator of a gaze model, which remembers how often the model ran. The model may crash when
it runs for a given time, counted from one. -/
def Estimator.ofModel [Scalar α] (model : GazeModel α) (rateHz : α) (crashAt : Option Nat) :
    Estimator Nat α where
  estimate calls face :=
    if !face.isFinite then (.failed (.degenerateGeometry .nonFiniteLandmarks), calls)
    else if crashAt = some (calls + 1) then (.crashed, calls + 1)
    else
      match DriverState.estimate model face rateHz with
      | .ok state => (.state state, calls + 1)
      | .error f => (.failed f, calls + 1)

end DriverMonitor
