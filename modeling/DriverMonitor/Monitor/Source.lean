import DriverMonitor.Recording.Replay

/-! # Landmark sources

A source is asked for one frame after another. It answers with a frame, with a failure that leaves
it usable, or it crashes. A source is a state and a function that answers from it, so that cameras,
recordings and scripts are all alike to who asks.
-/

namespace DriverMonitor

/-- What becomes of one call of a source. -/
inductive SourceCall (α : Type) where
  | gives (result : Except Failure (Extraction α))
  | crashes

/-- A prepared answer. -/
structure ScriptStep (α : Type) where
  call : SourceCall α
  /-- Whether somebody stops the run while the answer is being given. -/
  stops : Bool := false

structure Source (σ α : Type) where
  next : σ → SourceCall α × σ

namespace Source

/-- A source that gives the listed answers and then the end of the stream for ever. -/
def script {α : Type} : Source (List (ScriptStep α)) α where
  next
    | [] => (.gives (.ok .endOfStream), [])
    | step :: rest => (step.call, rest)

def recording : Source Recording Float where
  next r := let (result, r) := r.next; (.gives result, r)

end Source

end DriverMonitor
