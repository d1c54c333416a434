import DriverMonitor.Identity.Enrollment
import DriverMonitor.Proofs.Profile.Limits
import DriverMonitor.Proofs.Store.FileName

/-! # What the operations of a store do

Each operation is described once, by what stands in the places of the slots afterwards; later proofs
do not open it. Writing and removing change one place, since no two slots share a file name. Looking
for a free slot finds the lowest one.
-/

namespace DriverMonitor

namespace Store

variable {s next : Store} {slot : SlotId} {profile : Profile}

/-! ## Saving and loading -/

/-- Saving puts the profile in the place of the slot's file. -/
theorem save_eq_ok_iff :
    s.save slot profile = .ok next ↔
      ∃ d, s.directory = some d ∧ d.find? slot.fileName ≠ some .directory ∧
        next = { s with directory := some (d.insert slot.fileName (.file profile.encode)) } := by
  rw [save]
  cases s.directory with
  | none => exact ⟨nofun, nofun⟩
  | some d =>
    by_cases blocked : d.find? slot.fileName = some .directory
    · simp [blocked]
    · simp only [blocked, if_false, Except.ok.injEq, Option.some.injEq, exists_eq_left',
        ne_eq, not_false_eq_true, true_and]
      exact eq_comm

def Savable (s : Store) (slot : SlotId) : Prop :=
  s.directory ≠ none ∧ s.entry? slot ≠ some .directory

/-- Nothing but the place of the file can make saving fail. -/
theorem save_eq_error_iff {failure : Failure} :
    s.save slot profile = .error failure ↔
      failure = .storageUnavailable slot ∧ ¬ s.Savable slot := by
  rw [save, Savable, Store.entry?]
  cases s.directory with
  | none => simp [eq_comm]
  | some d => by_cases blocked : d.find? slot.fileName = some .directory <;> simp [blocked, eq_comm]

/-- No other slot is touched. -/
theorem entry?_save (saved : s.save slot profile = .ok next) (other : SlotId) :
    next.entry? other = if other = slot then some (.file profile.encode) else s.entry? other := by
  obtain ⟨d, present, -, rfl⟩ := save_eq_ok_iff.mp saved
  rw [Store.entry?, Store.entry?, present, Option.bind_some, Option.bind_some, Directory.find?_insert]
  simp only [SlotId.fileName_inj]

theorem capacity_save (saved : s.save slot profile = .ok next) : next.capacity = s.capacity := by
  obtain ⟨_, -, -, rfl⟩ := save_eq_ok_iff.mp saved
  rfl

theorem load_of_entry?_eq_none (empty : s.entry? slot = none) : s.load slot = .ok none := by
  rw [load, empty]

theorem load_of_entry?_eq_file {bytes : List UInt8} (found : s.entry? slot = some (.file bytes)) :
    s.load slot = (Profile.decode slot bytes).map some := by
  rw [load, found]

/-- A slot is read from its own file and from nothing else. -/
theorem load_congr {other : Store} (same : s.entry? slot = other.entry? slot) :
    s.load slot = other.load slot := by
  rw [load, load, same]

theorem map_some_eq_ok_iff {read : Except Failure Profile} :
    read.map some = .ok (some profile) ↔ read = .ok profile := by
  cases read with
  | error failure => exact ⟨nofun, nofun⟩
  | ok found => simp [Except.map]

/-- A profile within the limits of reading, and no other, is loaded again from a file of its own. -/
theorem load_eq_ok_some_iff (found : s.entry? slot = some (.file profile.encode)) :
    s.load slot = .ok (some profile) ↔ profile.Readable := by
  rw [load_of_entry?_eq_file found, map_some_eq_ok_iff, Profile.decode_encode_eq_ok_iff]

/-! ## Removing -/

theorem remove_of_entry?_eq_none (empty : s.entry? slot = none) :
    s.remove slot = .ok (false, s) := by
  rw [remove, empty]

theorem remove_of_entry?_eq_file {bytes : List UInt8} (found : s.entry? slot = some (.file bytes)) :
    s.remove slot =
      .ok (true, { s with directory := s.directory.map (·.erase slot.fileName) }) := by
  rw [remove, found]

theorem entry?_erase (s : Store) (slot other : SlotId) :
    entry? { s with directory := s.directory.map (·.erase slot.fileName) } other =
      if other = slot then none else s.entry? other := by
  rw [Store.entry?, Store.entry?]
  cases s.directory with
  | none => simp
  | some d =>
    simp only [Option.map_some, Option.bind_some, Directory.find?_erase, SlotId.fileName_inj]

/-! ## Free slots -/

def Within (capacity : UInt32) (slot : SlotId) : Prop :=
  1 ≤ slot.toNat ∧ slot.toNat ≤ capacity.toNat

structure Lowest (capacity : UInt32) (taken : SlotId → Prop) (slot : SlotId) : Prop where
  within : Within capacity slot
  free : ¬ taken slot
  below : ∀ other, 1 ≤ other.toNat → other.toNat < slot.toNat → taken other

def Full (capacity : UInt32) (taken : SlotId → Prop) : Prop :=
  ∀ slot, Within capacity slot → taken slot

theorem Lowest.unique {capacity : UInt32} {taken : SlotId → Prop} {a b : SlotId}
    (lowestA : Lowest capacity taken a) (lowestB : Lowest capacity taken b) : a = b := by
  have notBelow : ¬ a.toNat < b.toNat := fun below =>
    lowestA.free (lowestB.below a lowestA.within.1 below)
  have notAbove : ¬ b.toNat < a.toNat := fun above =>
    lowestB.free (lowestA.below b lowestB.within.1 above)
  exact SlotId.toNat_inj.mp (by omega)

/-- The search stops at the first slot that is free. -/
theorem firstFree_spec (s : Store) (first count : Nat) (bound : first + count ≤ UInt32.size) :
    match s.firstFree first count with
    | some slot => (first ≤ slot.toNat ∧ slot.toNat < first + count) ∧ s.isTaken slot = false ∧
        ∀ other, first ≤ other.toNat → other.toNat < slot.toNat → s.isTaken other = true
    | none => ∀ other, first ≤ other.toNat → other.toNat < first + count → s.isTaken other = true := by
  induction count generalizing first with
  | zero =>
    intro other above below
    omega
  | succ count ih =>
    have kept : (SlotId.ofNat first).toNat = first := SlotId.toNat_ofNat (by omega)
    rw [firstFree]
    -- either the search ends here, or the slot is taken and the rest is searched
    cases taken : s.isTaken (.ofNat first) with
    | false =>
      refine ⟨by omega, taken, fun other above below => ?_⟩
      omega
    | true =>
      have here : ∀ other : SlotId, first = other.toNat → s.isTaken other = true := by
        rintro other rfl
        rw [SlotId.ofNat_toNat] at taken
        exact taken
      have later := ih (first + 1) (by omega)
      simp only [if_true]
      revert later
      cases s.firstFree (first + 1) count with
      | none =>
        intro later other above below
        by_cases isFirst : first = other.toNat
        · exact here other isFirst
        · exact later other (by omega) (by omega)
      | some slot =>
        rintro ⟨range, free, lower⟩
        refine ⟨by omega, free, fun other above below => ?_⟩
        by_cases isFirst : first = other.toNat
        · exact here other isFirst
        · exact lower other (by omega) below

theorem nextFree?_spec (s : Store) :
    match s.nextFree? with
    | some slot => Lowest s.capacity (s.isTaken · = true) slot
    | none => Full s.capacity (s.isTaken · = true) := by
  have bound : s.capacity.toNat < UInt32.size := s.capacity.toNat_lt
  have spec := s.firstFree_spec 1 s.capacity.toNat (by omega)
  rw [nextFree?]
  revert spec
  cases s.firstFree 1 s.capacity.toNat with
  | none => exact fun full slot within => full slot within.1 (by have := within.2; omega)
  | some slot =>
    rintro ⟨range, notTaken, lower⟩
    exact ⟨⟨range.1, by omega⟩, by rw [notTaken]; exact nofun, lower⟩

theorem nextFree?_eq_some_iff :
    s.nextFree? = some slot ↔ Lowest s.capacity (s.isTaken · = true) slot := by
  have spec := s.nextFree?_spec
  revert spec
  cases s.nextFree? with
  | none => exact fun full => ⟨nofun, fun lowest => absurd (full slot lowest.within) lowest.free⟩
  | some found =>
    intro lowest
    rw [Option.some.injEq]
    constructor
    · rintro rfl
      exact lowest
    · exact lowest.unique

theorem nextFree?_eq_none_iff : s.nextFree? = none ↔ Full s.capacity (s.isTaken · = true) := by
  have spec := s.nextFree?_spec
  revert spec
  cases s.nextFree? with
  | none => exact fun full => ⟨fun _ => full, fun _ => rfl⟩
  | some found => exact fun lowest => ⟨nofun, fun full => absurd (full found lowest.within) lowest.free⟩

/-! ## Enrolling -/

/-- What enrollment stores: every embedding as one column. -/
def newcomer (name : String) (embeddings : List Embedding) (weights : Option GazeCoefficients) :
    Profile :=
  ⟨name, embeddings.map .column, weights.getD .zero⟩

theorem enrollmentSlot_some_of_within (within : Within s.capacity slot) :
    s.enrollmentSlot (some slot) = .ok slot := by
  have allowed : ¬ (slot.number = 0 ∨ s.capacity < slot.number) := by
    rw [← UInt32.toNat_inj, UInt32.lt_iff_toNat_lt, UInt32.toNat_zero]
    have bounds : 1 ≤ slot.number.toNat ∧ slot.number.toNat ≤ s.capacity.toNat := within
    omega
  rw [enrollmentSlot, if_neg allowed]

theorem enrollmentSlot_some_of_not_within (outside : ¬ Within s.capacity slot) :
    s.enrollmentSlot (some slot) = .error (.invalidSlot slot s.capacity) := by
  have refused : slot.number = 0 ∨ s.capacity < slot.number := by
    rw [← UInt32.toNat_inj, UInt32.lt_iff_toNat_lt, UInt32.toNat_zero]
    have bounds : ¬ (1 ≤ slot.number.toNat ∧ slot.number.toNat ≤ s.capacity.toNat) := outside
    omega
  rw [enrollmentSlot, if_pos refused]

theorem enrollmentSlot_none_of_free (free : s.nextFree? = some slot) :
    s.enrollmentSlot none = .ok slot := by
  rw [enrollmentSlot, free]
  rfl

theorem enrollmentSlot_none_of_full (full : s.nextFree? = none) :
    s.enrollmentSlot none = .error (.slotsFull s.capacity) := by
  rw [enrollmentSlot, full]
  rfl

section Enrollment

variable {policy : EnrollmentPolicy} {given : Option SlotId} {name : String}
variable {embeddings : List Embedding} {weights : Option GazeCoefficients} {failure : Failure}

theorem enroll_of_check_error (refused : policy.check embeddings = .error failure) :
    s.enroll policy given name embeddings weights = .error failure := by
  rw [enroll, refused]
  rfl

theorem enroll_of_slot_error (accepted : policy.check embeddings = .ok ())
    (refused : s.enrollmentSlot given = .error failure) :
    s.enroll policy given name embeddings weights = .error failure := by
  rw [enroll, accepted, refused]
  rfl

/-- Once embeddings and slot are accepted, to enroll is to save. -/
theorem enroll_of_slot (accepted : policy.check embeddings = .ok ())
    (chosen : s.enrollmentSlot given = .ok slot) :
    s.enroll policy given name embeddings weights =
      (s.save slot (newcomer name embeddings weights)).map (slot, ·) := by
  rw [enroll, accepted, chosen]
  rfl

/-- An enrollment that succeeds has passed every check. -/
theorem save_of_enroll (enrolled : s.enroll policy given name embeddings weights = .ok (slot, next)) :
    policy.check embeddings = .ok () ∧ s.enrollmentSlot given = .ok slot ∧
      s.save slot (newcomer name embeddings weights) = .ok next := by
  cases accepted : policy.check embeddings with
  | error failure =>
    rw [enroll_of_check_error accepted] at enrolled
    cases enrolled
  | ok _ =>
    cases chosen : s.enrollmentSlot given with
    | error failure =>
      rw [enroll_of_slot_error accepted chosen] at enrolled
      cases enrolled
    | ok target =>
      rw [enroll_of_slot accepted chosen] at enrolled
      cases saved : s.save target (newcomer name embeddings weights) with
      | error failure =>
        rw [saved] at enrolled
        cases enrolled
      | ok after =>
        rw [saved] at enrolled
        cases enrolled
        exact ⟨rfl, rfl, saved⟩

end Enrollment

end Store

theorem EnrollmentPolicy.check_eq_ok_iff {policy : EnrollmentPolicy} {embeddings : List Embedding} :
    policy.check embeddings = .ok () ↔
      policy.minSamples ≤ embeddings.length ∧
        ∀ e ∈ embeddings, e.length = policy.embeddingDim := by
  rw [check]
  by_cases few : embeddings.length < policy.minSamples
  · simp only [few, if_true]
    exact ⟨nofun, fun enough => absurd few (Nat.not_lt.mpr enough.1)⟩
  · cases found : embeddings.find? (·.length != policy.embeddingDim) with
    | some wrong =>
      simp only [few, if_false]
      have present := List.mem_of_find?_eq_some found
      have length := List.find?_some found
      refine ⟨nofun, fun enough => ?_⟩
      simp [enough.2 wrong present] at length
    | none =>
      simp only [few, if_false]
      refine ⟨fun _ => ⟨by omega, fun e present => ?_⟩, fun _ => trivial⟩
      simpa using List.find?_eq_none.mp found e present

end DriverMonitor
