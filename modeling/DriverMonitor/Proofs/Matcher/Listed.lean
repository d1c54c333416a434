import DriverMonitor.Proofs.Matcher.Decision
import DriverMonitor.Proofs.Store.Contents
import DriverMonitor.Proofs.Store.Names

/-! # Slots that are listed without a file

Names are read more liberally than they are written, so a directory may list slots that have no file
of their own. Nothing is loaded for these, and an outcome names only slots that have scored:
`Matcher.exists_scored_of_slot?`. So a name that is merely read as a slot never changes whom a probe
is taken for.
-/

namespace DriverMonitor

/-- The slot that an outcome names, as the driver's or as the nearest one. -/
def AuthOutcome.slot? : AuthOutcome → Option SlotId
  | .accepted slot _ _ => some slot
  | .rejected (.noMatch slot _) => some slot
  | .rejected _ => none

namespace Matcher

variable {m : Matcher} {store : Store}

theorem slot?_verdict (m : Matcher) (best : Candidate) : (m.verdict best).slot? = some best.slot := by
  rw [verdict]
  split
  · rfl
  · rfl

/-- An outcome names a slot only after it has scored. -/
theorem exists_scored_of_slot? {faces : List Embedding} {outcome : AuthOutcome} {slot : SlotId}
    (decided : m.authenticate faces store = .ok outcome) (named : outcome.slot? = some slot) :
    ∃ probe c, m.Scored probe store c ∧ c.slot = slot := by
  -- only the third stage names a slot; the first two refuse without one
  by_cases one : faces.length = 1
  · obtain ⟨probe, rfl⟩ := List.length_eq_one_iff.mp one
    by_cases fits : ∀ expected, m.embeddingDim = some expected → probe.length = expected
    · rw [authenticate_of_probe m store fits] at decided
      cases decided
      by_cases anyScored : ∃ c, m.Scored probe store c
      · obtain ⟨c, scored⟩ := anyScored
        obtain ⟨best, winner, verdict⟩ := exists_winner scored
        rw [verdict, slot?_verdict] at named
        exact ⟨probe, best, winner.scored, Option.some.inj named⟩
      · rw [decide_scores_of_none fun c scored => anyScored ⟨c, scored⟩] at named
        cases named
    · obtain ⟨expected, refused⟩ := Classical.not_forall.mp fits
      obtain ⟨configured, wrong⟩ := Classical.not_imp.mp refused
      rw [authenticate_of_length_ne m store configured wrong] at decided
      cases decided
  · rw [authenticate_of_faceCount m store one] at decided
    cases decided
    cases named

/-- A slot for which nothing is loaded has neither a name nor a score. -/
theorem eq_of_mem_scores {probe : Embedding} {score : SlotScore} {slot : SlotId}
    (nothing : store.load slot = .ok none) (member : score ∈ m.scores probe store)
    (ofSlot : score.slot = slot) : score = ⟨slot, none, none⟩ := by
  obtain ⟨other, -, rfl⟩ := List.mem_map.mp member
  cases ofSlot
  have unreadable : readable? store other = none := by
    rw [readable?, nothing]
    rfl
  rw [unreadable]
  rfl

end Matcher

namespace Store

/-- Of a directory of any names, the slots for enrollment are listed, and those with a file of their
own, which are the enrolled ones; what is listed beyond these has a padded name in the directory. For
such a slot nothing is loaded, so it has no score and no outcome names it. -/
theorem listing_spec (d : Directory) (capacity : UInt32) :
    let s : Store := { directory := some d, capacity }
    ∃ slots enrolled, s.slots = .ok slots ∧ s.enrolled = .ok enrolled ∧
      SlotId.Increasing slots ∧ SlotId.Increasing enrolled ∧
      (∀ slot, slot ∈ slots ↔ (1 ≤ slot.toNat ∧ slot.toNat ≤ capacity.toNat) ∨
        s!"{slot.toNat}.bin" ∈ d.names ∨ ∃ padding, SlotId.Padding padding ∧
          String.ofList padding ++ s!"{slot.toNat}.bin" ∈ d.names) ∧
      (∀ slot, slot ∈ enrolled ↔ s!"{slot.toNat}.bin" ∈ d.names) ∧
      ∀ slot ∈ slots, ¬ (1 ≤ slot.toNat ∧ slot.toNat ≤ capacity.toNat) →
        s!"{slot.toNat}.bin" ∉ d.names →
        s.load slot = .ok none ∧ ∀ m : Matcher,
          (∀ probe, ∀ score ∈ m.scores probe s, score.slot = slot → score = ⟨slot, none, none⟩) ∧
          ∀ faces outcome, m.authenticate faces s = .ok outcome → outcome.slot? ≠ some slot := by
  intro s
  have present : s.directory = some d := rfl
  obtain ⟨slots, listed⟩ : ∃ slots, s.slots = .ok slots := ⟨_, rfl⟩
  have enrolled : s.enrolled = .ok (slots.filter s.isTaken) := by rw [Store.enrolled, listed]; rfl
  obtain ⟨inOrder, taken⟩ := enrolled_spec enrolled
  refine ⟨slots, _, listed, enrolled, increasing_slots listed, inOrder,
    fun slot => mem_slots_iff_names present listed, fun slot => ?_, ?_⟩
  · rw [taken, isTaken_iff_mem_names present]
  · intro slot _ _ noFile
    -- listed or not, what is loaded is the file with the plain name
    have empty : s.entry? slot = none := by
      cases found : s.entry? slot with
      | none => rfl
      | some entry =>
        exact absurd ((isTaken_iff_mem_names present).mp (isTaken_iff.mpr ⟨entry, found⟩)) noFile
    have nothing : s.load slot = .ok none := load_of_entry?_eq_none empty
    refine ⟨nothing, fun m => ⟨fun probe score => m.eq_of_mem_scores nothing, ?_⟩⟩
    intro faces outcome decided named
    obtain ⟨probe, _, ⟨_, loaded, _⟩, rfl⟩ := m.exists_scored_of_slot? decided named
    rw [nothing] at loaded
    cases loaded

/-- Two padded names list slots without a file; the other names list nothing, but for a directory in
the place of a file. -/
theorem listing_spec_stray_names :
    let d : Directory := ⟨[("007.bin", .file []), ("+5.bin", .file []), (".bin", .file []),
      ("5.bin.bin", .file []), ("4294967296.bin", .file []), ("3.txt", .file []),
      ("9.bin", .directory)]⟩
    let s : Store := { directory := some d, capacity := 2 }
    s.slots = .ok [⟨1⟩, ⟨2⟩, ⟨5⟩, ⟨7⟩, ⟨9⟩] ∧ s.enrolled = .ok [⟨9⟩] ∧
      s.load ⟨5⟩ = .ok none ∧ ∀ (m : Matcher) faces outcome,
        m.authenticate faces s = .ok outcome → outcome.slot? ≠ some ⟨5⟩ := by
  intro d s
  have inserted : (d.names.filterMap SlotId.ofFileName?).foldr insertSlot s.numbered =
      [⟨1⟩, ⟨2⟩, ⟨5⟩, ⟨7⟩, ⟨9⟩] := by decide +kernel
  have listed : s.slots = .ok [⟨1⟩, ⟨2⟩, ⟨5⟩, ⟨7⟩, ⟨9⟩] := congrArg Except.ok inserted
  have enrolled : s.enrolled = .ok [⟨9⟩] := by
    rw [Store.enrolled, listed]
    exact congrArg Except.ok (by decide +kernel)
  have noFile : s!"{(⟨5⟩ : SlotId).toNat}.bin" ∉ d.names := by decide +kernel
  obtain ⟨slots, _, isListed, _, _, _, _, _, strays⟩ := listing_spec d 2
  cases listed.symm.trans isListed
  obtain ⟨nothing, matching⟩ := strays ⟨5⟩ (by decide) (by decide) noFile
  exact ⟨listed, enrolled, nothing, fun m => (matching m).2⟩

end Store

end DriverMonitor
