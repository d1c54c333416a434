import DriverMonitor.Proofs.Store.Contents

/-! # A store is a map from slots to drivers

Calls that change a store are played in order, and a refused one leaves the store as it was. A store
that starts out empty then keeps files only, each the writing of a profile, so all that can be seen of
it is a map from slots to profiles. `Drivers.Change` says what one call does to that map, and
`Store.performAll_refines_drivers` that any calls on a store do just that.
-/

namespace DriverMonitor

inductive StoreCall where
  | save (slot : SlotId) (profile : Profile)
  | enroll (policy : EnrollmentPolicy) (given : Option SlotId) (name : String)
      (embeddings : List Embedding) (weights : Option GazeCoefficients)
  | remove (slot : SlotId)

inductive StoreAnswer where
  | saved
  | enrolled (slot : SlotId)
  | removed (present : Bool)

namespace StoreCall

/-- The slot that a call may have changed, given its answer. -/
def target? : StoreCall → Except Failure StoreAnswer → Option SlotId
  | .save slot _, _ => some slot
  | .enroll .., .ok (.enrolled slot) => some slot
  | .enroll .., _ => none
  | .remove slot, _ => some slot

def Readable : StoreCall → Prop
  | .save _ profile => profile.Readable
  | .enroll _ _ name embeddings weights => (Store.newcomer name embeddings weights).Readable
  | .remove _ => True

end StoreCall

namespace Store

def settle (s : Store) : Except Failure (StoreAnswer × Store) → Except Failure StoreAnswer × Store
  | .ok (answer, next) => (.ok answer, next)
  | .error failure => (.error failure, s)

def perform (s : Store) : StoreCall → Except Failure StoreAnswer × Store
  | .save slot profile => s.settle ((s.save slot profile).map (.saved, ·))
  | .enroll policy given name embeddings weights =>
    s.settle ((s.enroll policy given name embeddings weights).map fun (slot, next) =>
      (.enrolled slot, next))
  | .remove slot => s.settle ((s.remove slot).map fun (present, next) => (.removed present, next))

def performAll (s : Store) : List StoreCall → List (Except Failure StoreAnswer) × Store
  | [] => ([], s)
  | call :: calls =>
    let (answer, next) := s.perform call
    let (answers, last) := next.performAll calls
    (answer :: answers, last)

end Store

/-! ## The map -/

def Drivers := SlotId → Option Profile

namespace Drivers

def nobody : Drivers := fun _ => none

def put (held : Drivers) (slot : SlotId) (content : Option Profile) : Drivers :=
  fun other => if other = slot then content else held other

def Present (held : Drivers) (slot : SlotId) : Prop := (held slot).isSome = true

section Changes

variable (capacity : UInt32)

/-- What a call does to a map, and what it answers. -/
inductive Change (held : Drivers) : StoreCall → Except Failure StoreAnswer → Drivers → Prop
  | save (slot profile) :
    Change held (.save slot profile) (.ok .saved) (held.put slot (some profile))
  | remove (slot) :
    Change held (.remove slot) (.ok (.removed (held slot).isSome)) (held.put slot none)
  | refused {policy given name embeddings weights failure} :
    policy.check embeddings = .error failure →
    Change held (.enroll policy given name embeddings weights) (.error failure) held
  | outside {policy slot name embeddings weights} :
    policy.check embeddings = .ok () → ¬ Store.Within capacity slot →
    Change held (.enroll policy (some slot) name embeddings weights)
      (.error (.invalidSlot slot capacity)) held
  | given {policy slot name embeddings weights} :
    policy.check embeddings = .ok () → Store.Within capacity slot →
    Change held (.enroll policy (some slot) name embeddings weights) (.ok (.enrolled slot))
      (held.put slot (some (Store.newcomer name embeddings weights)))
  | full {policy name embeddings weights} :
    policy.check embeddings = .ok () → Store.Full capacity held.Present →
    Change held (.enroll policy none name embeddings weights) (.error (.slotsFull capacity)) held
  | lowest {policy slot name embeddings weights} :
    policy.check embeddings = .ok () → Store.Lowest capacity held.Present slot →
    Change held (.enroll policy none name embeddings weights) (.ok (.enrolled slot))
      (held.put slot (some (Store.newcomer name embeddings weights)))

inductive Changes : Drivers → List StoreCall → List (Except Failure StoreAnswer) → Drivers → Prop
  | done (held) : Changes held [] [] held
  | step {held between last call calls answer answers} :
    Change capacity held call answer between → Changes between calls answers last →
    Changes held (call :: calls) (answer :: answers) last

end Changes

variable {capacity : UInt32} {held last : Drivers} {call : StoreCall}
variable {answer : Except Failure StoreAnswer}

theorem put_self (held : Drivers) (slot : SlotId) (content : Option Profile) :
    held.put slot content slot = content := if_pos rfl

theorem put_of_ne {slot other : SlotId} (different : other ≠ slot) (content : Option Profile) :
    held.put slot content other = held other := if_neg different

/-- A call changes no slot but its target. -/
theorem Change.eq_of_not_target (change : Change capacity held call answer last) {other : SlotId}
    (elsewhere : call.target? answer ≠ some other) : last other = held other := by
  have apart {slot : SlotId} (different : some slot ≠ some other) : other ≠ slot := by
    rintro rfl
    exact different rfl
  cases change with
  | save | remove | given | lowest => exact put_of_ne (apart elsewhere) _
  | refused | outside | full => rfl

def Readable (held : Drivers) : Prop := ∀ slot profile, held slot = some profile → profile.Readable

theorem Readable.put {slot : SlotId} {content : Option Profile} (readable : held.Readable)
    (new : ∀ profile, content = some profile → profile.Readable) :
    (held.put slot content).Readable := by
  intro other profile found
  by_cases same : other = slot
  · rw [same, put_self] at found
    exact new profile found
  · rw [put_of_ne same] at found
    exact readable other profile found

theorem Change.readable (change : Change capacity held call answer last)
    (readable : held.Readable) (within : call.Readable) : last.Readable := by
  have stored {profile : Profile} (storable : profile.Readable) :
      ∀ other, some profile = some other → other.Readable := by
    rintro _ ⟨⟩
    exact storable
  cases change with
  | save | given | lowest => exact readable.put (stored within)
  | remove => exact readable.put nofun
  | refused | outside | full => exact readable

/-- Calls that store what can be read back leave nothing that cannot. -/
theorem Changes.readable {calls : List StoreCall} {answers : List (Except Failure StoreAnswer)}
    (changes : Changes capacity held calls answers last) (readable : held.Readable)
    (within : ∀ call ∈ calls, call.Readable) : last.Readable := by
  induction changes with
  | done => exact readable
  | step change _ ih =>
    obtain ⟨first, rest⟩ := List.forall_mem_cons.mp within
    exact ih (change.readable readable first) rest

end Drivers

/-! ## The files -/

namespace Store

variable {s : Store} {capacity : UInt32} {held : Drivers}

/-- A store whose files are the writings of the profiles of a map. -/
structure Holds (s : Store) (capacity : UInt32) (held : Drivers) : Prop where
  directory : ∃ d, s.directory = some d
  listable : s.listable = true
  capacity : s.capacity = capacity
  entry : ∀ slot, s.entry? slot = (held slot).map (.file ·.encode)

/-- An empty directory holds no driver. -/
theorem holds_nobody (capacity : UInt32) :
    Holds { directory := some .empty, capacity } capacity .nobody where
  directory := ⟨_, rfl⟩
  listable := rfl
  capacity := rfl
  entry _ := rfl

theorem Holds.isTaken (holds : s.Holds capacity held) (slot : SlotId) :
    s.isTaken slot = (held slot).isSome := by
  rw [Store.isTaken, holds.entry, Option.isSome_map]

theorem Holds.taken (holds : s.Holds capacity held) : (s.isTaken · = true) = held.Present := by
  funext slot
  rw [holds.isTaken, Drivers.Present]

/-! ## One call -/

/-- Where a map is held, nothing is in the way of saving. -/
theorem Holds.save (holds : s.Holds capacity held) (slot : SlotId) (profile : Profile) :
    ∃ next, s.save slot profile = .ok next ∧
      next.Holds capacity (held.put slot (some profile)) := by
  obtain ⟨d, present⟩ := holds.directory
  -- only a directory in the place of the file could be in the way
  have free : d.find? slot.fileName ≠ some .directory := by
    have entry := holds.entry slot
    rw [Store.entry?, present, Option.bind_some] at entry
    rw [entry]
    cases held slot with
    | none => simp
    | some profile => simp
  have written : ∃ next, s.save slot profile = .ok next :=
    ⟨_, save_eq_ok_iff.mpr ⟨d, present, free, rfl⟩⟩
  obtain ⟨next, saved⟩ := written
  have entries := entry?_save saved
  obtain ⟨_, -, -, rfl⟩ := save_eq_ok_iff.mp saved
  refine ⟨_, saved, ⟨_, rfl⟩, holds.listable, holds.capacity, fun other => ?_⟩
  rw [entries, holds.entry]
  by_cases same : other = slot
  · rw [if_pos same, same, Drivers.put_self]
    rfl
  · rw [if_neg same, Drivers.put_of_ne same]

theorem Holds.remove (holds : s.Holds capacity held) (slot : SlotId) :
    ∃ next, s.remove slot = .ok ((held slot).isSome, next) ∧
      next.Holds capacity (held.put slot none) := by
  have entry := holds.entry slot
  cases present : held slot with
  | none =>
    rw [present] at entry
    -- nothing was there, and the map has nothing there either
    refine ⟨s, remove_of_entry?_eq_none entry, holds.directory, holds.listable, holds.capacity,
      fun other => ?_⟩
    rw [holds.entry]
    by_cases same : other = slot
    · rw [same, Drivers.put_self, present]
    · rw [Drivers.put_of_ne same]
  | some profile =>
    rw [present] at entry
    obtain ⟨d, there⟩ := holds.directory
    refine ⟨_, remove_of_entry?_eq_file entry, ⟨_, congrArg (Option.map _) there⟩, holds.listable,
      holds.capacity, fun other => ?_⟩
    rw [entry?_erase, holds.entry]
    by_cases same : other = slot
    · rw [if_pos same, same, Drivers.put_self]
      rfl
    · rw [if_neg same, Drivers.put_of_ne same]

section Enrollment

variable {policy : EnrollmentPolicy} {embeddings : List Embedding} {given : Option SlotId}

theorem Holds.enroll_at (holds : s.Holds capacity held) (name : String)
    (weights : Option GazeCoefficients) (accepted : policy.check embeddings = .ok ())
    {slot : SlotId} (chosen : s.enrollmentSlot given = .ok slot) :
    ∃ next, s.enroll policy given name embeddings weights = .ok (slot, next) ∧
      next.Holds capacity (held.put slot (some (newcomer name embeddings weights))) := by
  obtain ⟨next, saved, after⟩ := holds.save slot (newcomer name embeddings weights)
  refine ⟨next, ?_, after⟩
  rw [enroll_of_slot accepted chosen, saved]
  rfl

theorem Holds.nextFree?_eq_some_iff (holds : s.Holds capacity held) {slot : SlotId} :
    s.nextFree? = some slot ↔ Lowest capacity held.Present slot := by
  rw [Store.nextFree?_eq_some_iff, holds.taken, holds.capacity]

theorem Holds.nextFree?_eq_none_iff (holds : s.Holds capacity held) :
    s.nextFree? = none ↔ Full capacity held.Present := by
  rw [Store.nextFree?_eq_none_iff, holds.taken, holds.capacity]

theorem Holds.enroll (holds : s.Holds capacity held) (policy : EnrollmentPolicy)
    (given : Option SlotId) (name : String) (embeddings : List Embedding)
    (weights : Option GazeCoefficients) :
    let call : StoreCall := .enroll policy given name embeddings weights
    ∃ last, Drivers.Change capacity held call (s.perform call).1 last ∧
      (s.perform call).2.Holds capacity last := by
  intro call
  have refusal {failure : Failure}
      (failed : s.enroll policy given name embeddings weights = .error failure) :
      s.perform call = (.error failure, s) := by
    rw [perform, failed]
    rfl
  have success {slot : SlotId} {next : Store}
      (enrolled : s.enroll policy given name embeddings weights = .ok (slot, next)) :
      s.perform call = (.ok (.enrolled slot), next) := by
    rw [perform, enrolled]
    rfl
  -- the samples are checked first, then the slot is chosen; saving cannot fail
  cases accepted : policy.check embeddings with
  | error failure =>
    rw [refusal (enroll_of_check_error accepted)]
    exact ⟨held, .refused accepted, holds⟩
  | ok _ =>
    cases given with
    | some slot =>
      by_cases within : Within s.capacity slot
      · obtain ⟨next, enrolled, after⟩ :=
          holds.enroll_at name weights accepted (enrollmentSlot_some_of_within within)
        rw [success enrolled]
        exact ⟨_, .given accepted (holds.capacity ▸ within), after⟩
      · have refused := enrollmentSlot_some_of_not_within within
        rw [refusal (enroll_of_slot_error accepted refused), holds.capacity]
        exact ⟨held, .outside accepted (holds.capacity ▸ within), holds⟩
    | none =>
      cases free : s.nextFree? with
      | none =>
        rw [refusal (enroll_of_slot_error accepted (enrollmentSlot_none_of_full free)),
          holds.capacity]
        exact ⟨held, .full accepted (holds.nextFree?_eq_none_iff.mp free), holds⟩
      | some slot =>
        obtain ⟨next, enrolled, after⟩ :=
          holds.enroll_at name weights accepted (enrollmentSlot_none_of_free free)
        rw [success enrolled]
        exact ⟨_, .lowest accepted (holds.nextFree?_eq_some_iff.mp free), after⟩

end Enrollment

/-- A call does to the store what a change does to the map, with the same answer. -/
theorem Holds.perform (holds : s.Holds capacity held) (call : StoreCall) :
    ∃ last, Drivers.Change capacity held call (s.perform call).1 last ∧
      (s.perform call).2.Holds capacity last := by
  cases call with
  | save slot profile =>
    obtain ⟨next, saved, after⟩ := holds.save slot profile
    rw [Store.perform, saved]
    exact ⟨_, .save slot profile, after⟩
  | enroll policy given name embeddings weights =>
    exact holds.enroll policy given name embeddings weights
  | remove slot =>
    obtain ⟨next, removed, after⟩ := holds.remove slot
    rw [Store.perform, removed]
    exact ⟨_, .remove slot, after⟩

/-- By induction, so do calls in a row. -/
theorem Holds.performAll (holds : s.Holds capacity held) (calls : List StoreCall) :
    ∃ last, Drivers.Changes capacity held calls (s.performAll calls).1 last ∧
      (s.performAll calls).2.Holds capacity last := by
  induction calls generalizing s held with
  | nil => exact ⟨held, .done held, holds⟩
  | cons call calls ih =>
    obtain ⟨between, change, after⟩ := holds.perform call
    obtain ⟨last, changes, atLast⟩ := ih after
    exact ⟨last, .step change changes, atLast⟩

/-! ## What is seen of a store -/

/-- A store that shows a map, and nothing but that map. -/
structure Shows (s : Store) (capacity : UInt32) (held : Drivers) : Prop where
  load : ∀ slot, s.load slot = .ok (held slot) ↔ ∀ p, held slot = some p → p.Readable
  enrolled : ∃ slots, s.enrolled = .ok slots ∧ SlotId.Increasing slots ∧
    ∀ slot, slot ∈ slots ↔ held.Present slot
  nextFree : ∀ slot, s.nextFree? = some slot ↔ Lowest capacity held.Present slot
  noneFree : s.nextFree? = none ↔ Full capacity held.Present
  slotsFull : ∀ policy name embeddings weights, policy.check embeddings = .ok () →
    (s.enroll policy none name embeddings weights = .error (.slotsFull capacity) ↔
      Full capacity held.Present)
  elsewhere : ∀ call other, call.target? (s.perform call).1 ≠ some other →
    (s.perform call).2.load other = s.load other

/-- A slot shows its profile exactly if that can be read back. -/
theorem Holds.load_eq_ok_iff (holds : s.Holds capacity held) (slot : SlotId) :
    s.load slot = .ok (held slot) ↔ ∀ p, held slot = some p → p.Readable := by
  have entry := holds.entry slot
  cases present : held slot with
  | none =>
    rw [present] at entry
    exact ⟨fun _ => nofun, fun _ => load_of_entry?_eq_none entry⟩
  | some profile =>
    rw [present] at entry
    rw [load_eq_ok_some_iff entry]
    constructor
    · rintro readable _ ⟨⟩
      exact readable
    · exact fun readable => readable profile rfl

theorem Holds.enrolled (holds : s.Holds capacity held) :
    ∃ slots, s.enrolled = .ok slots ∧ SlotId.Increasing slots ∧
      ∀ slot, slot ∈ slots ↔ held.Present slot := by
  obtain ⟨d, present⟩ := holds.directory
  have listed : ∃ slots, s.enrolled = .ok slots := by
    rw [Store.enrolled, slots, present, holds.listable]
    exact ⟨_, rfl⟩
  obtain ⟨slots, listed⟩ := listed
  obtain ⟨increasing, mem⟩ := enrolled_spec listed
  refine ⟨slots, listed, increasing, fun slot => ?_⟩
  rw [mem, holds.isTaken, Drivers.Present]

theorem Holds.slotsFull_iff (holds : s.Holds capacity held) {policy : EnrollmentPolicy}
    {embeddings : List Embedding} (name : String) (weights : Option GazeCoefficients)
    (accepted : policy.check embeddings = .ok ()) :
    s.enroll policy none name embeddings weights = .error (.slotsFull capacity) ↔
      Full capacity held.Present := by
  rw [← holds.nextFree?_eq_none_iff]
  cases free : s.nextFree? with
  | none =>
    rw [enroll_of_slot_error accepted (enrollmentSlot_none_of_full free), holds.capacity]
    exact ⟨fun _ => rfl, fun _ => rfl⟩
  | some slot =>
    obtain ⟨next, enrolled, -⟩ :=
      holds.enroll_at name weights accepted (enrollmentSlot_none_of_free free)
    rw [enrolled]
    exact ⟨nofun, nofun⟩

theorem Holds.shows (holds : s.Holds capacity held) : s.Shows capacity held where
  load := holds.load_eq_ok_iff
  enrolled := holds.enrolled
  nextFree _ := holds.nextFree?_eq_some_iff
  noneFree := holds.nextFree?_eq_none_iff
  slotsFull _ name _ weights := holds.slotsFull_iff name weights
  elsewhere call other elsewhere := by
    obtain ⟨last, change, after⟩ := holds.perform call
    refine load_congr ?_
    rw [after.entry, holds.entry, change.eq_of_not_target elsewhere]

/-- Whatever calls change a store that starts out empty, it answers them as a map from slots to
profiles does and shows that map afterwards; and all of it can be loaded, if no call stores a profile
beyond the limits of reading. -/
theorem performAll_refines_drivers (capacity : UInt32) (calls : List StoreCall) :
    let start : Store := { directory := some .empty, capacity }
    ∃ held, Drivers.Changes capacity .nobody calls (start.performAll calls).1 held ∧
      (start.performAll calls).2.Shows capacity held ∧
      ((∀ call ∈ calls, call.Readable) →
        ∀ slot, (start.performAll calls).2.load slot = .ok (held slot)) := by
  intro start
  obtain ⟨held, changes, holds⟩ := (holds_nobody capacity).performAll calls
  refine ⟨held, changes, holds.shows, fun within slot => ?_⟩
  have nothing : Drivers.nobody.Readable := fun _ _ => nofun
  exact (holds.shows.load slot).mpr (changes.readable nothing within slot)

end Store

end DriverMonitor
