import DriverMonitor.Command.Invocation
import DriverMonitor.Command.Report
import DriverMonitor.Config.File
import DriverMonitor.Files.DataHome
import DriverMonitor.Gaze.SampleFile
import DriverMonitor.Identity.EmbeddingFile
import DriverMonitor.Identity.OpenStore
import DriverMonitor.Monitor.Lockstep

/-! # Running commands

A command first loads the configuration, then makes the directories it works in, and then does its
work. What it has printed before a failure stays printed.
-/

namespace DriverMonitor

variable {m : Type → Type} [Monad m]

/-- A command in progress: it prints lines and may fail. -/
abbrev CommandM (m : Type → Type) := ExceptT CommandFault (StateT (List ReportLine) m)

namespace CommandM

def files {α : Type} (action : m α) : CommandM m α := ExceptT.lift (StateT.lift action)

def look (access : FileAccess m) (path : String) : CommandM m (Option Entry) :=
  files (Except.toOption <$> access.look path)

def print (line : ReportLine) : CommandM m Unit := ExceptT.lift (modify fun lines => lines ++ [line])

def printText (s : String) : CommandM m Unit := print (.text s)

/-- Goes on with a result, or fails plainly. -/
def ofExcept {α : Type} (r : Except Failure α) : CommandM m α :=
  ExceptT.mk (pure (r.mapError CommandFault.plain))

/-- Does something with files that may fail plainly. -/
def attempt {α : Type} (action : ExceptT Failure m α) : CommandM m α := do
  ofExcept (← files action.run)

/-- Goes on with a result, or fails and says what was being done. -/
def during {α : Type} (what : Undertaking) (r : Except Failure α) : CommandM m α :=
  ExceptT.mk (pure (r.mapError (CommandFault.during what)))

end CommandM

open CommandM

/-! ## Files -/

/-- The values in a data file. A directory can be opened, but holds no values. -/
def readData {α : Type} (read : List UInt8 → Except Failure α) : Option Entry → Except Failure α
  | none => .error .io
  | some .directory => .error .json
  | some (.file bytes) => read bytes

/-- Makes the directory of development mode, if that is wanted. -/
def makeDevelopmentDirectory (access : FileAccess m) (development : Bool) :
    ExceptT Failure m Unit := do
  if development then
    unless ← access.makeDirectory DataHome.developmentDirectory do throw .io

/-- Opens the store in the directory that the configuration names, or in the usual one. -/
def openStore (access : FileAccess m) (env : DataHome) (development : Bool) (config : Config) :
    ExceptT Failure m OpenStore := do
  let path ← liftExcept (config.storage.profilesDir.elim (env.profilesDirectory development) .ok)
  OpenStore.create access path config.identity.slotCapacity

/-! ## Commands -/

variable (access : FileAccess m) (config : Config) (s : OpenStore)

def runEnroll (name : String) (slot : Option SlotId) (embeddings : String)
    (calibration : Option String) : CommandM m Unit := do
  printText s!"Enrolling driver: {name}"
  let samples ← during (.readingEmbeddings embeddings)
    (readData Embedding.readAll (← look access embeddings))
  let weights ← match calibration with
    | none => pure none
    | some path => do
      let faces ← during (.readingCalibration path)
        (readData CalibrationSample.readAll (← look access path))
      some <$> ofExcept (Calibration.fit faces)
  let slot ← attempt (s.enroll access (.ofConfig config) slot name samples weights)
  printText (Report.enrolledLine name slot samples.length)

def runAuthenticate (path : String) : CommandM m Unit := do
  let faces ← during (.readingFaces path)
    (readData Embedding.readAll (← look access path))
  let outcome ← ofExcept ((Matcher.ofConfig config).authenticate faces s.store)
  printText (Report.outcomeLine outcome)

def runList : CommandM m Unit := do
  printText s!"Profiles in {s.path}"
  for slot in ← ofExcept s.store.slots do
    let modified ← attempt (s.modified? access slot)
    printText (Report.slotLine slot modified (← files (s.load access slot).run))

def profileIn (slot : SlotId) : CommandM m Profile := do
  match ← attempt (s.load access slot) with
  | some profile => return profile
  | none => throw (.noProfile slot)

def runInspect (slot : SlotId) : CommandM m Unit := do
  let profile ← profileIn access s slot
  let modified ← attempt (s.modified? access slot)
  (Report.profileLines slot profile modified).forM printText

def runRemove (slot : SlotId) : CommandM m Unit := do
  if ← attempt (s.remove access slot) then printText s!"Removed profile in slot {slot}"
  else printText s!"Slot {slot} was already empty"

/-- Runs both loops over a recording, and gives the states in order and how it ended. -/
def replayRecording (model : GazeModel Float) (rateHz : Float) (recording : Recording) :
    List (DriverState Float) × Option Ending :=
  let monitor : Monitor Nat Float := { estimator := 0 }
  let run := runLockstep ⟨.recording, .ofModel model rateHz none, fun _ => false⟩ (fun _ => false)
    (lockstepBound recording.lines.length) (monitor.start recording)
  (run.observed.reverse, run.ending?)

def runReplay (input : String) (slot : Option SlotId) (strategy : Option GazeStrategy) :
    CommandM m Unit := do
  let profile ← slot.mapM (profileIn access s)
  if let some p := profile then printText s!"Replaying for driver: {p.name}"
  let model ← ofExcept (GazeModel.select (strategy.getD config.gaze.strategy)
    (profile.bind Profile.calibration?) config)
  let recording ← match ← look access input with
    | some (.file bytes) => pure (Recording.ofBytes bytes)
    | _ => during (.openingRecording input) (.error .io)
  let (states, ending) := replayRecording model config.inference.rateHz recording
  states.forM fun state => print (.state state)
  match ending with
  | some (.finished captured inferred) => printText (Report.summaryLine captured inferred)
  | _ => throw (.plain .inferenceCrashed)

def runCommand : Command → CommandM m Unit
  | .enroll name slot embeddings calibration =>
    runEnroll access config s name slot embeddings calibration
  | .authenticate faces => runAuthenticate access config s faces
  | .list => runList access s
  | .inspect slot => runInspect access s slot
  | .remove slot => runRemove access s slot
  | .replay input slot strategy => runReplay access config s input slot strategy

def runInvocation (access : FileAccess m) (env : DataHome) (i : Invocation) : CommandM m Unit := do
  let config ← match i.config with
    | some path => ofExcept (Config.load path (← look access path))
    | none => ofExcept (Config.loadOrDefault Config.usualPath
        (← look access Config.usualPath))
  attempt (makeDevelopmentDirectory access i.development)
  let s ← attempt (openStore access env i.development config)
  runCommand access config s i.command

/-! ## Reports -/

/-- What a run of the program leaves behind for who started it. -/
structure CommandReport where
  lines : List ReportLine := []
  errors : List String := []
  code : UInt32

def usageText : String := "Usage: watchout [--dev] [--config FILE] COMMAND [OPTIONS]"

/-- Runs the program on its arguments. -/
def runProgram (access : FileAccess m) (env : DataHome) (arguments : List String) :
    m CommandReport := do
  match Invocation.parse arguments with
  | .error .help => return { lines := [.text usageText], code := 0 }
  | .error .wrong => return { errors := [usageText], code := 2 }
  | .ok i =>
    match ← StateT.run (ExceptT.run (runInvocation access env i)) [] with
    | (.ok (), lines) => return { lines, code := 0 }
    | (.error fault, lines) => return { lines, errors := fault.lines, code := 1 }

end DriverMonitor
