import DriverMonitor.Monitor.Cell

/-! # A cell that parties share

Any number of parties take turns at one cell. Whoever has the lock is alone with the cell until the
lock is given back, and it is given back also by a holder that crashes. That leaves the lock poisoned,
which the next holder does not ask about.

The steps of a run are told by their events. `writingSections` reads off them which sections wrote,
and what, in the order in which they had the lock. `SharedCell.Run.accounted` says that nothing else
determines the cell and the answers of its readers. Versions are counted without bound, as `Cell.version`
says.
-/

namespace DriverMonitor

variable {θ α : Type}

inductive SharedCell (θ α : Type) where
  | free (poisoned : Bool) (cell : Cell α)
  | held (poisoned : Bool) (holder : θ) (guard : Guard α)

inductive CellEvent (θ α : Type) where
  | publish (party : θ) (value : α)
  | lock (party : θ)
  | write (party : θ) (f : α → α)
  | unlock (party : θ) (crashed : Bool)
  | version (party : θ) (shown : Nat)
  | snapshot (party : θ) (shown : Nat × α)
  | poll (party : θ) (seen : Nat) (shown : Option (Nat × α))

namespace SharedCell

/-- What a party can do. While one holds the lock, the others wait. -/
inductive Step : SharedCell θ α → CellEvent θ α → SharedCell θ α → Prop
  | publish (poisoned cell party value) :
    Step (.free poisoned cell) (.publish party value) (.free poisoned (cell.publish value))
  | lock (poisoned cell party) :
    Step (.free poisoned cell) (.lock party) (.held poisoned party cell.lock)
  | write (poisoned party guard f) :
    Step (.held poisoned party guard) (.write party f) (.held poisoned party (guard.write f))
  | unlock (poisoned party guard crashed) :
    Step (.held poisoned party guard) (.unlock party crashed)
      (.free (poisoned || crashed) guard.release)
  | version (poisoned cell party) :
    Step (.free poisoned cell) (.version party cell.version) (.free poisoned cell)
  | snapshot (poisoned cell party) :
    Step (.free poisoned cell) (.snapshot party cell.snapshot) (.free poisoned cell)
  | poll (poisoned cell party seen) :
    Step (.free poisoned cell) (.poll party seen (cell.newerThan? seen)) (.free poisoned cell)

inductive Run (start : SharedCell θ α) : List (CellEvent θ α) → SharedCell θ α → Prop
  | start : Run start [] start
  | step {events between last event} :
    Run start events between → Step between event last → Run start (events ++ [event]) last

/-- Each event of a run is a step from where the events before it led to. -/
theorem Run.step_at {start last : SharedCell θ α} {events : List (CellEvent θ α)} {n : Nat}
    {event : CellEvent θ α} (run : Run start events last) (found : events[n]? = some event) :
    ∃ s t, Run start (events.take n) s ∧ Step s event t := by
  induction run with
  | start => cases found
  | step run step ih =>
    rw [List.getElem?_append] at found
    split at found
    -- an earlier event is one of the shorter run
    next inside =>
      rw [List.take_append_of_le_length (Nat.le_of_lt inside)]
      exact ih found
    next outside =>
      rw [List.getElem?_singleton] at found
      split at found
      next atEnd =>
        cases found
        rw [List.take_left' (by omega)]
        exact ⟨_, _, run, step⟩
      next => cases found

end SharedCell

/-! ## Sections -/

/-- The writes of each section that is over, and those so far of the one that is not. -/
structure SectionLog (α : Type) where
  finished : List (List (α → α)) := []
  current : List (α → α) := []

def SectionLog.record (log : SectionLog α) : CellEvent θ α → SectionLog α
  | .publish _ value => { log with finished := log.finished ++ [[fun _ => value]] }
  | .lock _ => { log with current := [] }
  | .write _ f => { log with current := log.current ++ [f] }
  | .unlock _ _ => ⟨log.finished ++ [log.current], []⟩
  | .version .. | .snapshot .. | .poll .. => log

def sectionLog (events : List (CellEvent θ α)) : SectionLog α := events.foldl SectionLog.record {}

/-- The writes of the sections that are over and wrote at all, in the order in which they had the
lock. -/
def writingSections (events : List (CellEvent θ α)) : List (List (α → α)) :=
  (sectionLog events).finished.filter (!·.isEmpty)

def written (value : α) (fs : List (α → α)) : α := fs.foldl (fun value f => f value) value

theorem written_append (value : α) (fs gs : List (α → α)) :
    written value (fs ++ gs) = written (written value fs) gs :=
  List.foldl_append

def accountOf (init : α) (events : List (CellEvent θ α)) : Cell α :=
  ⟨written init (writingSections events).flatten, (writingSections events).length⟩

def Shown (events : List (CellEvent θ α)) (version : Nat) (value : α) : Prop :=
  ∃ party, .snapshot party (version, value) ∈ events ∨
    ∃ seen, .poll party seen (some (version, value)) ∈ events

section Readers

variable [DecidableEq θ]

def CellEvent.given? (party : θ) : CellEvent θ α → Option Nat
  | .poll asker _ (some (given, _)) => if asker = party then some given else none
  | _ => none

def versionsGiven (party : θ) (events : List (CellEvent θ α)) : List Nat :=
  events.filterMap (CellEvent.given? party)

def lastGiven (party : θ) (events : List (CellEvent θ α)) : Nat :=
  (versionsGiven party events).getLast?.getD 0

/-- A party that always asks for what is newer than what it was given last. -/
def KeepsUp (party : θ) (events : List (CellEvent θ α)) : Prop :=
  ∀ n seen shown, events[n]? = some (.poll party seen shown) →
    seen = lastGiven party (events.take n)

end Readers

theorem sectionLog_append (before after : List (CellEvent θ α)) :
    sectionLog (before ++ after) = after.foldl SectionLog.record (sectionLog before) :=
  List.foldl_append

theorem SectionLog.finished_record (log : SectionLog α) (event : CellEvent θ α) :
    ∃ more, (log.record event).finished = log.finished ++ more := by
  cases event with
  | publish | unlock => exact ⟨_, rfl⟩
  | lock | write | version | snapshot | poll => exact ⟨[], (List.append_nil _).symm⟩

theorem SectionLog.finished_foldl_record (log : SectionLog α) (events : List (CellEvent θ α)) :
    ∃ more, (events.foldl record log).finished = log.finished ++ more := by
  induction events generalizing log with
  | nil => exact ⟨[], (List.append_nil _).symm⟩
  | cons event events ih =>
    obtain ⟨first, grown⟩ := log.finished_record event
    obtain ⟨rest, further⟩ := ih (log.record event)
    exact ⟨first ++ rest, by rw [List.foldl_cons, further, grown, List.append_assoc]⟩

/-- Sections that are over stay as they are, so what comes later only adds to them. -/
theorem take_writingSections (before after : List (CellEvent θ α)) :
    (writingSections (before ++ after)).take (writingSections before).length =
      writingSections before := by
  obtain ⟨more, grown⟩ := (sectionLog before).finished_foldl_record after
  rw [writingSections, writingSections, sectionLog_append, grown, List.filter_append]
  exact List.take_left

/-! ## Sections of a cell -/

namespace Guard

theorem writeAll_append (g : Guard α) (fs : List (α → α)) (f : α → α) :
    g.writeAll (fs ++ [f]) = (g.writeAll fs).write f :=
  List.foldl_append

/-- Writes under one lock make one new version. -/
theorem writeAll_eq (g : Guard α) (fs : List (α → α)) :
    g.writeAll fs = ⟨written g.value fs, g.version, g.dirty || !fs.isEmpty⟩ := by
  induction fs generalizing g with
  | nil =>
    rw [List.isEmpty_nil, Bool.not_true, Bool.or_false]
    rfl
  | cons f fs ih =>
    rw [List.isEmpty_cons, Bool.not_false, Bool.or_true]
    exact ih (g.write f)

end Guard

theorem Cell.foldl_modify_append (c : Cell α) (sections : List (List (α → α)))
    (fs : List (α → α)) :
    (sections ++ [fs]).foldl modify c = (sections.foldl modify c).modify fs :=
  List.foldl_append

theorem Cell.modify_eq (c : Cell α) (fs : List (α → α)) :
    c.modify fs = ⟨written c.value fs, c.version + if fs.isEmpty then 0 else 1⟩ := by
  rw [modify, Guard.writeAll_eq, Guard.release]
  cases fs <;> rfl

/-- Sections without writes leave no trace. -/
theorem Cell.foldl_modify (c : Cell α) (sections : List (List (α → α))) :
    sections.foldl modify c =
      ⟨written c.value (sections.filter (!·.isEmpty)).flatten,
        c.version + (sections.filter (!·.isEmpty)).length⟩ := by
  induction sections generalizing c with
  | nil => rfl
  | cons fs sections ih =>
    rw [List.foldl_cons, ih, modify_eq]
    cases fs with
    | nil => rfl
    | cons f fs =>
      have writes : ((f :: fs) :: sections).filter (!·.isEmpty) =
          (f :: fs) :: sections.filter (!·.isEmpty) := rfl
      rw [writes, List.flatten_cons, List.length_cons, written_append, Cell.mk.injEq]
      refine ⟨rfl, ?_⟩
      change c.version + 1 + _ = c.version + (_ + 1)
      omega

namespace SharedCell

variable {init : α} {events : List (CellEvent θ α)} {s t : SharedCell θ α} {event : CellEvent θ α}

/-- A cell that holds what the finished sections left, or a holder that works on it. -/
def Tracks (init : α) (s : SharedCell θ α) (log : SectionLog α) : Prop :=
  match s with
  | .free _ cell => cell = log.finished.foldl Cell.modify ⟨init, 0⟩ ∧ log.current = []
  | .held _ _ guard =>
    guard = (log.finished.foldl Cell.modify ⟨init, 0⟩).lock.writeAll log.current

/-- A step of any party keeps the cell in line with the log of its events. -/
theorem Tracks.step {log : SectionLog α} (tracks : s.Tracks init log) (step : Step s event t) :
    t.Tracks init (log.record event) := by
  cases step with
  | publish poisoned cell party value =>
    obtain ⟨rfl, nothing⟩ := tracks
    exact ⟨(Cell.foldl_modify_append _ _ [fun _ => value]).symm, nothing⟩
  | lock => exact congrArg Cell.lock tracks.1
  | write poisoned party guard f =>
    cases tracks
    exact (Guard.writeAll_append _ _ f).symm
  | unlock =>
    cases tracks
    exact ⟨(Cell.foldl_modify_append _ _ _).symm, rfl⟩
  | version | snapshot | poll => exact tracks

theorem Run.tracks (run : Run (.free false ⟨init, 0⟩) events s) :
    s.Tracks init (sectionLog events) := by
  induction run with
  | start => exact ⟨rfl, rfl⟩
  | step run step ih =>
    rw [sectionLog_append]
    exact ih.step step

/-- The account is what the sections do to a cell of their own, one after the other. -/
theorem accountOf_eq (init : α) (events : List (CellEvent θ α)) :
    accountOf init events = (sectionLog events).finished.foldl Cell.modify ⟨init, 0⟩ := by
  rw [Cell.foldl_modify, Nat.zero_add]
  rfl

theorem Tracks.cell_eq {poisoned : Bool} {cell : Cell α}
    (tracks : (free (θ := θ) poisoned cell).Tracks init (sectionLog events)) :
    cell = accountOf init events := tracks.1.trans (accountOf_eq init events).symm

/-- A cell that no holder has changed since some value and version, or one whose holder has only
written to the value. -/
def Has (s : SharedCell θ α) (settled : Cell α) (since : List (α → α)) : Prop :=
  match s with
  | .free _ cell => cell = settled
  | .held _ _ guard =>
    guard.version = settled.version ∧ guard.value = written settled.value since

theorem Run.cell_has (run : Run (.free false ⟨init, 0⟩) events s) :
    s.Has (accountOf init events) (sectionLog events).current := by
  have tracks := run.tracks
  cases s with
  | free poisoned cell => exact tracks.cell_eq
  | held poisoned holder guard =>
    cases tracks
    rw [Guard.writeAll_eq, ← accountOf_eq]
    exact ⟨rfl, rfl⟩

/-! ## Answers -/

section Answers

variable {n : Nat} {party : θ} (run : Run (.free false ⟨init, 0⟩) events s)

include run

theorem Run.version_at {shown : Nat} (found : events[n]? = some (.version party shown)) :
    shown = (accountOf init (events.take n)).version := by
  obtain ⟨u, t, before, step⟩ := run.step_at found
  cases step with
  | version poisoned cell => rw [← before.tracks.cell_eq]

theorem Run.snapshot_at {shown : Nat × α} (found : events[n]? = some (.snapshot party shown)) :
    shown = (accountOf init (events.take n)).snapshot := by
  obtain ⟨u, t, before, step⟩ := run.step_at found
  cases step with
  | snapshot poisoned cell => rw [← before.tracks.cell_eq]

theorem Run.poll_at {seen : Nat} {shown : Option (Nat × α)}
    (found : events[n]? = some (.poll party seen shown)) :
    shown = (accountOf init (events.take n)).newerThan? seen := by
  obtain ⟨u, t, before, step⟩ := run.step_at found
  cases step with
  | poll poisoned cell => rw [← before.tracks.cell_eq]

/-- A poll gives something exactly if sections have written since the version it names. -/
theorem Run.poll_spec {seen : Nat} {shown : Option (Nat × α)}
    (found : events[n]? = some (.poll party seen shown)) :
    (shown = none ↔ (writingSections (events.take n)).drop seen = []) ∧
      ∀ answer, shown = some answer →
        answer = (accountOf init (events.take n)).snapshot ∧ seen < answer.1 := by
  rw [run.poll_at found, Cell.newerThan?, List.drop_eq_nil_iff]
  by_cases newer : seen < (accountOf init (events.take n)).version
  · rw [if_pos newer]
    refine ⟨⟨nofun, fun old => absurd newer (Nat.not_lt.mpr old)⟩, ?_⟩
    rintro _ ⟨⟩
    exact ⟨rfl, newer⟩
  · rw [if_neg newer]
    exact ⟨⟨fun _ => Nat.not_lt.mp newer, fun _ => rfl⟩, nofun⟩

/-- What is shown as the value of a version is what as many writing sections left. -/
theorem Run.shown_eq {version : Nat} {value : α} (shown : Shown events version value) :
    value = written init ((writingSections events).take version).flatten := by
  have former : ∃ n, (version, value) = (accountOf init (events.take n)).snapshot := by
    obtain ⟨party, asSnapshot | ⟨seen, polled⟩⟩ := shown
    · obtain ⟨n, found⟩ := List.getElem?_of_mem asSnapshot
      exact ⟨n, run.snapshot_at found⟩
    · obtain ⟨n, found⟩ := List.getElem?_of_mem polled
      exact ⟨n, ((run.poll_spec found).2 _ rfl).1⟩
  obtain ⟨n, same⟩ := former
  cases same
  have later := take_writingSections (events.take n) (events.drop n)
  rw [List.take_append_drop] at later
  exact congrArg (fun sections => written init sections.flatten) later.symm

end Answers

/-! ## Readers that keep up -/

section Readers

variable [DecidableEq θ] {party : θ}

theorem given?_eq_some_iff {version : Nat} :
    CellEvent.given? party event = some version ↔
      ∃ seen value, event = .poll party seen (some (version, value)) := by
  cases event with
  | poll asker seen shown =>
    cases shown with
    | none => exact ⟨nofun, nofun⟩
    | some answer =>
      obtain ⟨given, value⟩ := answer
      simp only [CellEvent.given?]
      by_cases asks : asker = party
      · simp [asks]
      · simp [asks]
  | _ => exact ⟨nofun, nofun⟩

theorem versionsGiven_append (party : θ) (events : List (CellEvent θ α)) (event : CellEvent θ α) :
    versionsGiven party (events ++ [event]) =
      versionsGiven party events ++ (CellEvent.given? party event).toList := by
  rw [versionsGiven, List.filterMap_append, List.filterMap_cons]
  cases CellEvent.given? party event <;> rfl

theorem KeepsUp.of_append (keepsUp : KeepsUp party (events ++ [event])) : KeepsUp party events := by
  intro n seen shown found
  have inside : n < events.length := (List.getElem?_eq_some_iff.mp found).1
  have asked := keepsUp n seen shown (by rw [List.getElem?_append_left inside, found])
  rwa [List.take_append_of_le_length (Nat.le_of_lt inside)] at asked

/-- A party that keeps up is given no version twice. -/
theorem Run.versionsGiven_increase (run : Run (.free false ⟨init, 0⟩) events s)
    (keepsUp : KeepsUp party events) :
    (versionsGiven party events).Pairwise (· < ·) ∧
      ∀ version ∈ versionsGiven party events, version ≤ lastGiven party events := by
  induction run with
  | start => exact ⟨.nil, nofun⟩
  | @step events between last event run step ih =>
    obtain ⟨increasing, atMost⟩ := ih (KeepsUp.of_append keepsUp)
    rw [lastGiven, versionsGiven_append]
    cases given : CellEvent.given? party event with
    | none =>
      rw [Option.toList_none, List.append_nil]
      exact ⟨increasing, atMost⟩
    | some version =>
      obtain ⟨seen, value, rfl⟩ := given?_eq_some_iff.mp given
      have found := List.getElem?_concat_length (l := events)
        (a := .poll party seen (some (version, value)))
      -- the party asks with the last version that it was given, and gets a newer one
      have asked := keepsUp _ _ _ found
      rw [List.take_left] at asked
      have newer : seen < version := (((run.step step).poll_spec found).2 _ rfl).2
      rw [Option.toList_some, List.getLast?_concat, Option.getD_some]
      refine ⟨List.pairwise_append.mpr ⟨increasing, List.pairwise_singleton _ _, ?_⟩, ?_⟩
      · intro earlier old later new
        have bound := atMost earlier old
        cases List.mem_singleton.mp new
        omega
      · intro other present
        obtain old | new := List.mem_append.mp present
        · have bound := atMost other old
          omega
        · exact Nat.le_of_eq (List.mem_singleton.mp new)

/-! ## The account -/

structure Accounted (init : α) (events : List (CellEvent θ α)) (s : SharedCell θ α) : Prop where
  cell : s.Has (accountOf init events) (sectionLog events).current
  version : ∀ n party shown, events[n]? = some (.version party shown) →
    shown = (accountOf init (events.take n)).version
  snapshot : ∀ n party shown, events[n]? = some (.snapshot party shown) →
    shown = (accountOf init (events.take n)).snapshot
  sameVersion : ∀ version a b, Shown events version a → Shown events version b → a = b
  /-- A poll shows nothing exactly if no writing section came after the version that was seen, and
  the current value otherwise. -/
  poll : ∀ n party seen shown, events[n]? = some (.poll party seen shown) →
    (shown = none ↔ (writingSections (events.take n)).drop seen = []) ∧
      ∀ answer, shown = some answer → answer = (accountOf init (events.take n)).snapshot
  increasing : ∀ party, KeepsUp party events → (versionsGiven party events).Pairwise (· < ·)

/-- However parties take turns at a cell, and whichever of them crash, the cell and all that readers
are shown of it follow from the sections that wrote. -/
theorem Run.accounted (run : Run (.free false ⟨init, 0⟩) events s) : Accounted init events s where
  cell := run.cell_has
  version _ _ _ := run.version_at
  snapshot _ _ _ := run.snapshot_at
  sameVersion _ _ _ one other := (run.shown_eq one).trans (run.shown_eq other).symm
  poll _ _ _ _ found :=
    have spec := run.poll_spec found
    ⟨spec.1, fun answer given => (spec.2 answer given).1⟩
  increasing _ keepsUp := (run.versionsGiven_increase keepsUp).1

/-- A holder that crashes after two writes, and one that crashes before any. -/
theorem Run.accounted_crashes :
    let events : List (CellEvent Nat Nat) :=
      [.publish 0 5, .lock 1, .write 1 (· + 1), .write 1 (2 * ·), .unlock 1 true,
        .poll 2 0 (some (2, 12)), .lock 3, .unlock 3 true, .poll 2 2 none, .snapshot 0 (2, 12)]
    let last : SharedCell Nat Nat := .free true ⟨12, 2⟩
    Run (.free false ⟨0, 0⟩) events last ∧ KeepsUp 2 events ∧ Accounted 0 events last := by
  intro events last
  have run : Run (.free false ⟨0, 0⟩) events last :=
    .step (.step (.step (.step (.step (.step (.step (.step (.step (.step .start
      (.publish _ _ 0 5)) (.lock _ _ 1)) (.write _ 1 _ _)) (.write _ 1 _ _)) (.unlock _ 1 _ true))
      (.poll _ _ 2 0)) (.lock _ _ 3)) (.unlock _ 3 _ true)) (.poll _ _ 2 2)) (.snapshot _ _ 0)
  have keepsUp : KeepsUp 2 events := by
    intro n seen shown found
    -- the only polls of party 2 are the events 5 and 8
    match n with
    | 0 | 1 | 2 | 3 | 4 | 6 | 7 | 9 => cases found
    | 5 | 8 =>
      cases found
      rfl
    | n + 10 => cases found
  exact ⟨run, keepsUp, run.accounted⟩

end Readers

end SharedCell

end DriverMonitor
