import DriverMonitor.Proofs.Files.Places
import DriverMonitor.Proofs.Store.Contents
import DriverMonitor.Proofs.Store.View

/-! # What an enrollment does to the files

An enrollment can be refused for five reasons, which are looked for in a fixed order, and each of them
before anything is written. So a refused enrollment leaves all files as they were, and one that is not
refused changes the file of its slot only. `OpenStore.enrollInto_spec` says both, of a tree in which
anything may stand where a slot has its file.
-/

namespace DriverMonitor

/-! ## Reasons to refuse an enrollment -/

def EnrollmentPolicy.Accepts (policy : EnrollmentPolicy) (embeddings : List Embedding) : Prop :=
  policy.minSamples ≤ embeddings.length ∧ ∀ e ∈ embeddings, e.length = policy.embeddingDim

namespace Store

/-- The slot that an enrollment goes to: the one given, or the lowest one that is not taken. -/
inductive Chosen (capacity : UInt32) (taken : SlotId → Prop) : Option SlotId → SlotId → Prop
  | given {slot} : Within capacity slot → Chosen capacity taken (some slot) slot
  | lowest {slot} : Lowest capacity taken slot → Chosen capacity taken none slot

theorem Chosen.within {capacity : UInt32} {taken : SlotId → Prop} {given : Option SlotId}
    {slot : SlotId} (chosen : Chosen capacity taken given slot) : Within capacity slot := by
  cases chosen with
  | given within => exact within
  | lowest lowest => exact lowest.within

/-- Why an enrollment is refused. A reason counts only where none before it applies. -/
inductive Refusal (capacity : UInt32) (taken creatable : SlotId → Prop) (policy : EnrollmentPolicy)
    (embeddings : List Embedding) : Option SlotId → Failure → Prop
  | tooFew {given} : embeddings.length < policy.minSamples →
    Refusal capacity taken creatable policy embeddings given
      (.insufficientSamples embeddings.length policy.minSamples)
  | wrongLength {given earlier wrong later} : policy.minSamples ≤ embeddings.length →
    embeddings = earlier ++ wrong :: later → (∀ e ∈ earlier, e.length = policy.embeddingDim) →
    wrong.length ≠ policy.embeddingDim →
    Refusal capacity taken creatable policy embeddings given
      (.dimensionMismatch policy.embeddingDim wrong.length)
  | outside {slot} : policy.Accepts embeddings → ¬ Within capacity slot →
    Refusal capacity taken creatable policy embeddings (some slot) (.invalidSlot slot capacity)
  | full : policy.Accepts embeddings → Full capacity taken →
    Refusal capacity taken creatable policy embeddings none (.slotsFull capacity)
  | unavailable {given slot} : policy.Accepts embeddings → Chosen capacity taken given slot →
    ¬ creatable slot →
    Refusal capacity taken creatable policy embeddings given (.storageUnavailable slot)

variable {capacity : UInt32} {taken creatable : SlotId → Prop} {policy : EnrollmentPolicy}
variable {embeddings : List Embedding} {given : Option SlotId} {failure : Failure}

theorem refusal_of_check (refused : policy.check embeddings = .error failure) :
    Refusal capacity taken creatable policy embeddings given failure := by
  rw [EnrollmentPolicy.check] at refused
  by_cases few : embeddings.length < policy.minSamples
  · rw [if_pos few] at refused
    cases refused
    exact .tooFew few
  · rw [if_neg few] at refused
    cases found : embeddings.find? (·.length != policy.embeddingDim) with
    | none =>
      rw [found] at refused
      cases refused
    | some wrong =>
      rw [found] at refused
      cases refused
      -- all samples in front of the one that is named have the right length
      obtain ⟨differs, earlier, later, parts, right⟩ := List.find?_eq_some_iff_append.mp found
      refine .wrongLength (Nat.not_lt.mp few) parts (fun e present => ?_) (by simpa using differs)
      simpa using right e present

theorem enrollmentSlot_spec (s : Store) (given : Option SlotId) (creatable : SlotId → Prop)
    (accepts : policy.Accepts embeddings) :
    match s.enrollmentSlot given with
    | .error failure =>
      Refusal s.capacity (s.isTaken · = true) creatable policy embeddings given failure
    | .ok slot => Chosen s.capacity (s.isTaken · = true) given slot := by
  cases given with
  | none =>
    cases free : s.nextFree? with
    | none =>
      rw [enrollmentSlot_none_of_full free]
      exact .full accepts (nextFree?_eq_none_iff.mp free)
    | some lowest =>
      rw [enrollmentSlot_none_of_free free]
      exact .lowest (nextFree?_eq_some_iff.mp free)
  | some wanted =>
    by_cases within : Within s.capacity wanted
    · rw [enrollmentSlot_some_of_within within]
      exact .given within
    · rw [enrollmentSlot_some_of_not_within within]
      exact .outside accepts within

/-- The fewer slots can be written, the more is refused. -/
theorem Refusal.mono {fewer : SlotId → Prop} (only : ∀ slot, fewer slot → creatable slot)
    (refusal : Refusal capacity taken creatable policy embeddings given failure) :
    Refusal capacity taken fewer policy embeddings given failure := by
  cases refusal with
  | tooFew few => exact .tooFew few
  | wrongLength enough parts right wrong => exact .wrongLength enough parts right wrong
  | outside accepts outside => exact .outside accepts outside
  | full accepts full => exact .full accepts full
  | unavailable accepts chosen blocked =>
    exact .unavailable accepts chosen fun possible => blocked (only _ possible)

/-- What enrolling does to a store, or why it is refused. -/
theorem enroll_spec (s : Store) (policy : EnrollmentPolicy) (given : Option SlotId) (name : String)
    (embeddings : List Embedding) (weights : Option GazeCoefficients) :
    match s.enroll policy given name embeddings weights with
    | .error failure =>
      Refusal s.capacity (s.isTaken · = true) s.Savable policy embeddings given failure
    | .ok (slot, next) =>
      policy.Accepts embeddings ∧ Chosen s.capacity (s.isTaken · = true) given slot ∧
        next.entry? slot = some (.file (newcomer name embeddings weights).encode) := by
  -- samples, then the slot, then the file, as the causes are ranked
  cases accepted : policy.check embeddings with
  | error failure =>
    rw [enroll_of_check_error accepted]
    exact refusal_of_check accepted
  | ok _ =>
    have accepts : policy.Accepts embeddings := EnrollmentPolicy.check_eq_ok_iff.mp accepted
    have spec := s.enrollmentSlot_spec given s.Savable accepts
    cases slotted : s.enrollmentSlot given with
    | error failure =>
      rw [slotted] at spec
      rw [enroll_of_slot_error accepted slotted]
      exact spec
    | ok slot =>
      rw [slotted] at spec
      rw [enroll_of_slot accepted slotted]
      cases saved : s.save slot (newcomer name embeddings weights) with
      | error failure =>
        obtain ⟨rfl, blocked⟩ := save_eq_error_iff.mp saved
        exact .unavailable accepts spec blocked
      | ok next =>
        have written := entry?_save saved slot
        rw [if_pos rfl] at written
        exact ⟨accepts, spec, written⟩

end Store

/-! ## Writing the file of a slot -/

namespace OpenStore

variable {t : FileTree} {path : String} {capacity : UInt32}
variable {s : OpenStore} {slot : SlotId} {changed : Store} {bytes : List UInt8}
variable {policy : EnrollmentPolicy} {given : Option SlotId} {name : String}
variable {embeddings : List Embedding} {weights : Option GazeCoefficients} {failure : Failure}

/-- Only the file of the slot is written. -/
theorem commit_eq (written : changed.entry? slot = some (.file bytes)) :
    s.commit FileTree.access slot changed t =
      match t.write? (s.slotPath slot) bytes with
      | some after => (.ok (), after)
      | none => (.error (.storageUnavailable slot), t) := by
  rw [commit, written]
  cases wrote : t.write? (s.slotPath slot) bytes with
  | some after =>
    have done : FileTree.access.write (s.slotPath slot) bytes t = (true, after) := by
      simp [FileTree.access, FileTree.attempt, wrote]
    exact bind_eq_of_ok (lift_eq done) _
  | none =>
    have done : FileTree.access.write (s.slotPath slot) bytes t = (false, t) := by
      simp [FileTree.access, FileTree.attempt, wrote]
    exact bind_eq_of_ok (lift_eq done) _

/-- A refusal leaves the tree as it was. -/
theorem enroll_of_refused
    (refused : s.store.enroll policy given name embeddings weights = .error failure) :
    s.enroll FileTree.access policy given name embeddings weights t = (.error failure, t) := by
  rw [enroll, refused]
  rfl

theorem enroll_of_accepted
    (accepted : s.store.enroll policy given name embeddings weights = .ok (slot, changed))
    (written : changed.entry? slot = some (.file bytes)) :
    s.enroll FileTree.access policy given name embeddings weights t =
      match t.write? (s.slotPath slot) bytes with
      | some after => (.ok slot, after)
      | none => (.error (.storageUnavailable slot), t) := by
  rw [enroll, accepted]
  have committed := commit_eq (s := s) (t := t) written
  cases wrote : t.write? (s.slotPath slot) bytes with
  | some after =>
    rw [wrote] at committed
    exact bind_eq_of_ok committed _
  | none =>
    rw [wrote] at committed
    exact bind_eq_of_error committed _

/-! ## Enrolling into a directory -/

theorem savable_seen {t : FileTree} {path : String} {capacity : UInt32} {slot : SlotId}
    (creatable : t.Creatable path slot.fileName) :
    (seen t path capacity).store.Savable slot := by
  obtain ⟨directory, missing | ⟨bytes, present⟩⟩ := creatable
  · refine ⟨fun none => directory_seen_iff.mp none directory, ?_⟩
    simp [entry?_seen, missing, Except.toOption]
  · refine ⟨fun none => directory_seen_iff.mp none directory, ?_⟩
    simp [entry?_seen, present, Except.toOption]

def enrollInto (path : String) (capacity : UInt32) (policy : EnrollmentPolicy)
    (given : Option SlotId) (name : String) (embeddings : List Embedding)
    (weights : Option GazeCoefficients) : StateM FileTree (Except Failure SlotId) := do
  let s ← view FileTree.access path capacity
  (s.enroll FileTree.access policy given name embeddings weights).run

/-- A refused enrollment leaves every file as it was, and is refused for the first reason that
applies. One that is not refused goes to a slot where a file can be written, the one given or the
lowest one without an entry, and changes what stands in that place and nothing else. -/
theorem enrollInto_spec (t : FileTree) (path : String) (capacity : UInt32)
    (policy : EnrollmentPolicy) (given : Option SlotId) (name : String)
    (embeddings : List Embedding) (weights : Option GazeCoefficients) :
    let taken slot := ∃ entry, t.look (joinPath path slot.fileName) = .ok entry
    let creatable slot := t.Creatable path slot.fileName
    match enrollInto path capacity policy given name embeddings weights t with
    | (.error failure, after) =>
      after = t ∧ Store.Refusal capacity taken creatable policy embeddings given failure
    | (.ok slot, after) =>
      policy.Accepts embeddings ∧ Store.Within capacity slot ∧
        Store.Chosen capacity taken given slot ∧ creatable slot ∧
        ∃ trail, t.find (directoryPath path) = .ok trail ∧
          ∀ place, after.entryAt? place =
            if place = trail.place ++ [slot.fileName] then
              some (.file (Store.newcomer name embeddings weights).encode)
            else t.entryAt? place := by
  intro taken creatable
  have enters : enrollInto path capacity policy given name embeddings weights t =
      (seen t path capacity).enroll FileTree.access policy given name embeddings weights t :=
    bind_eq (view_eq t path capacity) _
  rw [enters]
  -- the store decides by what it has seen, and only a write can still fail after that
  have spec := (seen t path capacity).store.enroll_spec policy given name embeddings weights
  rw [isTaken_seen] at spec
  cases stored : (seen t path capacity).store.enroll policy given name embeddings weights with
  | error failure =>
    rw [stored] at spec
    rw [enroll_of_refused stored]
    exact ⟨rfl, spec.mono fun slot possible => savable_seen possible⟩
  | ok result =>
    obtain ⟨slot, changed⟩ := result
    rw [stored] at spec
    obtain ⟨accepts, chosen, written⟩ := spec
    have asked : (seen t path capacity).slotPath slot = joinPath path slot.fileName := rfl
    have writes := t.write?_joinPath_eq_some_iff path slot.plain_fileName
      (Store.newcomer name embeddings weights).encode
    rw [enroll_of_accepted stored written, asked]
    cases wrote : t.write? (joinPath path slot.fileName)
        (Store.newcomer name embeddings weights).encode with
    | none =>
      refine ⟨rfl, .unavailable accepts chosen fun possible => ?_⟩
      obtain ⟨trail, opened⟩ := FileTree.look_directoryPath_iff.mp possible.1
      rw [(writes _).mpr ⟨possible, trail, opened, rfl⟩] at wrote
      cases wrote
    | some after =>
      obtain ⟨possible, trail, opened, rfl⟩ := (writes after).mp wrote
      obtain ⟨found, members, inside⟩ := FileTree.opened_eq_ok_iff.mp opened
      refine ⟨accepts, chosen.within, chosen, possible, trail, found, fun place => ?_⟩
      exact FileTree.entryAt?_put (FileTree.leads_of_find found) inside
        (possible.leaf slot.plain_fileName opened inside) _ place

end OpenStore

end DriverMonitor
