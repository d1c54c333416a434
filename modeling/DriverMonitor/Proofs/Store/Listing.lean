import DriverMonitor.Identity.Store

/-! # The slots that a store lists

The slots for enrollment are in increasing order, and each slot that a file name lists is put in its
place among them. So a listing is strictly increasing, whatever the names in the directory are and in
whatever order they come: `Store.increasing_slots`.
-/

namespace DriverMonitor

def SlotId.Increasing (slots : List SlotId) : Prop := slots.Pairwise (·.toNat < ·.toNat)

namespace SlotId

theorem toNat_inj {a b : SlotId} : a.toNat = b.toNat ↔ a = b := by
  constructor
  · intro same
    cases a
    cases b
    exact congrArg SlotId.mk (UInt32.toNat_inj.mp same)
  · rintro rfl
    rfl

theorem toNat_ofNat {n : Nat} (bound : n < UInt32.size) : (ofNat n).toNat = n :=
  UInt32.toNat_ofNat_of_lt' bound

theorem ofNat_toNat (slot : SlotId) : ofNat slot.toNat = slot :=
  toNat_inj.mp (toNat_ofNat slot.number.toNat_lt)

end SlotId

/-! ## Putting a slot in its place -/

theorem mem_insertSlot {slot other : SlotId} {slots : List SlotId} :
    other ∈ insertSlot slot slots ↔ other = slot ∨ other ∈ slots := by
  induction slots with
  | nil => rw [insertSlot, List.mem_singleton, List.mem_nil_iff, or_false]
  | cons first rest ih =>
    rw [insertSlot]
    split
    · rw [List.mem_cons]
    · split
      next same =>
        rw [same, List.mem_cons]
        exact ⟨.inr, fun present => present.elim .inl id⟩
      next => rw [List.mem_cons, ih, List.mem_cons, or_left_comm]

/-- A slot that stands in the list is not put in again. -/
theorem increasing_insertSlot {slot : SlotId} {slots : List SlotId}
    (increasing : SlotId.Increasing slots) : SlotId.Increasing (insertSlot slot slots) := by
  induction slots with
  | nil => exact List.pairwise_singleton _ _
  | cons first rest ih =>
    obtain ⟨least, restIncreasing⟩ := List.pairwise_cons.mp increasing
    rw [insertSlot]
    split
    -- in front of all others, already there, or further back
    next before =>
      have below : slot.toNat < first.toNat := UInt32.lt_iff_toNat_lt.mp before
      refine List.pairwise_cons.mpr ⟨?_, increasing⟩
      intro other present
      obtain rfl | later := List.mem_cons.mp present
      · exact below
      · exact Nat.lt_trans below (least other later)
    next notBefore =>
      split
      next => exact increasing
      next different =>
        have above : first.toNat < slot.toNat := by
          have notBelow : ¬ slot.toNat < first.toNat := fun below =>
            notBefore (UInt32.lt_iff_toNat_lt.mpr below)
          have notSame : slot.toNat ≠ first.toNat := fun same => different (SlotId.toNat_inj.mp same)
          omega
        refine List.pairwise_cons.mpr ⟨?_, ih restIncreasing⟩
        intro other present
        obtain rfl | later := mem_insertSlot.mp present
        · exact above
        · exact least other later

/-! ## Listings -/

namespace Store

theorem mem_numbered {s : Store} {slot : SlotId} :
    slot ∈ s.numbered ↔ 1 ≤ slot.toNat ∧ slot.toNat ≤ s.capacity.toNat := by
  have capacityBound : s.capacity.toNat < UInt32.size := s.capacity.toNat_lt
  simp only [numbered, List.mem_map, List.mem_range'_1]
  constructor
  · rintro ⟨n, inside, rfl⟩
    rw [SlotId.toNat_ofNat (by omega)]
    omega
  · intro inside
    exact ⟨slot.toNat, by omega, SlotId.ofNat_toNat slot⟩

theorem increasing_numbered (s : Store) : SlotId.Increasing s.numbered := by
  have capacityBound : s.capacity.toNat < UInt32.size := s.capacity.toNat_lt
  refine List.pairwise_map.mpr ((List.pairwise_lt_range' 1).imp_of_mem ?_)
  intro a b aInside bInside below
  rw [List.mem_range'_1] at aInside bInside
  rw [SlotId.toNat_ofNat (by omega), SlotId.toNat_ofNat (by omega)]
  exact below

/-- Slots are listed in strict order, however the names stand in the directory. -/
theorem increasing_slots {s : Store} {slots : List SlotId} (listed : s.slots = .ok slots) :
    SlotId.Increasing slots := by
  rw [Store.slots] at listed
  split at listed
  next => cases listed
  next d _ =>
    cases listed
    generalize d.names.filterMap SlotId.ofFileName? = named
    induction named with
    | nil => exact increasing_numbered s
    | cons slot named ih => exact increasing_insertSlot ih

end Store

end DriverMonitor
