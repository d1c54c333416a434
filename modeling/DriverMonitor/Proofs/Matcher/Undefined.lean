import DriverMonitor.Proofs.Matcher.Decision
import DriverMonitor.Proofs.Number.Order
import DriverMonitor.Proofs.Store.Contents

/-! # Scores that are not numbers

A stored value that is not a number makes such a score of its slot. Candidates are compared in the
total order, where that score lies beyond all numbers on the side of its sign bit, but accepted in
the order of numbers, where it is below nothing. So with a clear sign bit it never matters beside a
number, and with a set one it wins and is then refused: `accepted_iff_no_negative_nan` says that this
is the only way in which a driver who is near enough is kept out.
-/

namespace DriverMonitor

open Number (Single)

namespace Matcher

variable {m : Matcher} {probe : Embedding} {store : Store} {best c d : Candidate}

theorem Winner.rank_le (winner : m.Winner probe store best) (scored : m.Scored probe store d) :
    best.distance.rank ≤ d.distance.rank := by
  have precedes := Candidate.precedes_iff.mp (winner.least d scored)
  omega

/-- Beside a number, only a score with its sign bit set can win without being a number. -/
theorem Winner.isNegative_of_isNaN (winner : m.Winner probe store best)
    (scored : m.Scored probe store c) (number : c.distance.isNaN = false)
    (undefined : best.distance.isNaN = true) : best.distance.isNegative = true := by
  cases sign : best.distance.isNegative with
  | true => rfl
  | false =>
    have above := Single.rank_lt_of_positive_nan undefined sign number
    have notAbove := winner.rank_le scored
    omega

theorem Winner.isNaN_of_negative_nan (winner : m.Winner probe store best)
    (scored : m.Scored probe store d) (undefined : d.distance.isNaN = true)
    (negative : d.distance.isNegative = true) : best.distance.isNaN = true := by
  cases number : best.distance.isNaN with
  | true => rfl
  | false =>
    have below := Single.rank_lt_of_negative_nan undefined negative number
    have notBelow := winner.rank_le scored
    omega

/-- A winner that is a number is near if anything is near. -/
theorem Winner.lt_of_lt (winner : m.Winner probe store best) (number : best.distance.isNaN = false)
    (scored : m.Scored probe store c) {bound : Single} (near : c.distance.lt bound = true) :
    best.distance.lt bound = true := by
  obtain ⟨-, boundNumber, below⟩ := Single.lt_iff.mp near
  have notAbove := Single.level_le_of_rank_le (winner.rank_le scored)
  exact Single.lt_iff.mpr ⟨number, boundNumber, by omega⟩

theorem Winner.not_lt (winner : m.Winner probe store best) (scored : m.Scored probe store d) :
    d.distance.lt best.distance = false := by
  have notAbove := Single.level_le_of_rank_le (winner.rank_le scored)
  rw [← Bool.not_eq_true, Single.lt_iff]
  rintro ⟨-, -, below⟩
  omega

theorem verdict_of_isNaN (undefined : best.distance.isNaN = true) :
    m.verdict best = .rejected (.noMatch best.slot best.distance) := by
  have refused : ¬ best.distance.lt m.threshold = true := by
    rw [Single.lt_iff, undefined]
    exact nofun
  rw [verdict, if_neg refused]

/-- Where some slot is near enough, a slot of least distance among all numbers is accepted exactly if
no score is a word that is not a number and has its sign bit set; otherwise such a score is reported
as the nearest, and the probe is rejected. -/
theorem accepted_iff_no_negative_nan (m : Matcher) {probe : Embedding} (store : Store)
    (fits : ∀ expected, m.embeddingDim = some expected → probe.length = expected) {c : Candidate}
    (scored : m.Scored probe store c) (near : c.distance.lt m.threshold = true) :
    ((∃ best, m.Scored probe store best ∧ best.distance.isNaN = false ∧
          (∀ d, m.Scored probe store d → d.distance.lt best.distance = false) ∧
          m.authenticate [probe] store = .ok (.accepted best.slot best.name best.distance)) ↔
        ∀ d, m.Scored probe store d → d.distance.isNaN = true → d.distance.isNegative = false) ∧
      ∀ d, m.Scored probe store d → d.distance.isNaN = true → d.distance.isNegative = true →
        ∃ first, m.Scored probe store first ∧ first.distance.isNaN = true ∧
          first.distance.isNegative = true ∧
          m.authenticate [probe] store = .ok (.rejected (.noMatch first.slot first.distance)) := by
  obtain ⟨winner, wins, decided⟩ := exists_winner scored
  obtain ⟨number, -, -⟩ := Single.lt_iff.mp near
  have answer : m.authenticate [probe] store = .ok (m.verdict winner) := by
    rw [authenticate_of_probe m store fits, decided]
  -- one negative NaN is enough to make the winner one, and no comparison with the threshold holds for it
  have keptOut : ∀ d, m.Scored probe store d → d.distance.isNaN = true →
      d.distance.isNegative = true → winner.distance.isNaN = true ∧
        m.authenticate [probe] store = .ok (.rejected (.noMatch winner.slot winner.distance)) := by
    intro d dScored undefined negative
    have winnerUndefined := wins.isNaN_of_negative_nan dScored undefined negative
    exact ⟨winnerUndefined, by rw [answer, verdict_of_isNaN winnerUndefined]⟩
  refine ⟨⟨?_, ?_⟩, ?_⟩
  · rintro ⟨best, -, -, -, accepted⟩ d dScored undefined
    cases negative : d.distance.isNegative with
    | false => rfl
    | true =>
      rw [(keptOut d dScored undefined negative).2] at accepted
      cases accepted
  · intro noneNegative
    -- next to the number that is near, a NaN can only win if it is negative
    have winnerNumber : winner.distance.isNaN = false := by
      cases undefined : winner.distance.isNaN with
      | false => rfl
      | true =>
        have negative := wins.isNegative_of_isNaN scored number undefined
        rw [noneNegative winner wins.scored undefined] at negative
        cases negative
    refine ⟨winner, wins.scored, winnerNumber, fun d dScored => wins.not_lt dScored, ?_⟩
    rw [answer, verdict, if_pos (wins.lt_of_lt winnerNumber scored near)]
  · intro d dScored undefined negative
    obtain ⟨winnerUndefined, rejected⟩ := keptOut d dScored undefined negative
    exact ⟨winner, wins.scored, winnerUndefined,
      wins.isNegative_of_isNaN scored number winnerUndefined, rejected⟩

/-- Slot 2 holds the very face, but slot 1 a word that is not a number and has its sign bit set. -/
theorem accepted_iff_no_negative_nan_lost_driver :
    let nan : Single := ⟨0xffc00000⟩
    let m : Matcher := { threshold := ⟨0x3ee66666⟩, embeddingDim := some 1 }
    let nobody : Profile := { name := "Nan", embeddings := [.column [nan]] }
    let ana : Profile := { name := "Ana", embeddings := [.column [.zero]] }
    let empty : Store := { directory := some .empty, capacity := 4 }
    ∃ between store, empty.save ⟨1⟩ nobody = .ok between ∧ between.save ⟨2⟩ ana = .ok store ∧
      m.Scored [.zero] store ⟨⟨2⟩, "Ana", .zero⟩ ∧ Single.zero.lt m.threshold = true ∧
      m.authenticate [[.zero]] store = .ok (.rejected (.noMatch ⟨1⟩ nan)) := by
  intro nan m nobody ana empty
  obtain ⟨between, savedNobody⟩ : ∃ between, empty.save ⟨1⟩ nobody = .ok between := ⟨_, rfl⟩
  obtain ⟨store, savedAna⟩ : ∃ store, between.save ⟨2⟩ ana = .ok store := by
    cases savedNobody
    exact ⟨_, rfl⟩
  have capacity : store.capacity = 4 :=
    (Store.capacity_save savedAna).trans (Store.capacity_save savedNobody)
  have numbered (slot : SlotId) (within : 1 ≤ slot.toNat ∧ slot.toNat ≤ 4) : store.LooksAt slot :=
    Store.looksAt_of_numbered (by rw [capacity]; exact within)
  have entries (slot : SlotId) : store.entry? slot =
      if slot = ⟨2⟩ then some (.file ana.encode)
      else if slot = ⟨1⟩ then some (.file nobody.encode) else none := by
    rw [Store.entry?_save savedAna, Store.entry?_save savedNobody]
    rfl
  have loadedAna : store.load ⟨2⟩ = .ok (some ana) :=
    (Store.load_eq_ok_some_iff (entries ⟨2⟩)).mpr ⟨⟨by decide, by decide⟩, by decide +kernel⟩
  have loadedNobody : store.load ⟨1⟩ = .ok (some nobody) :=
    (Store.load_eq_ok_some_iff (entries ⟨1⟩)).mpr ⟨⟨by decide, by decide⟩, by decide +kernel⟩
  have anaScored : m.Scored [.zero] store ⟨⟨2⟩, "Ana", .zero⟩ := by
    have mean : Single.mean ([[.zero]].map (m.metric [.zero])) = .zero := by decide +kernel
    have scored : m.Scored [.zero] store ⟨_, _, Single.mean ([[.zero]].map (m.metric [.zero]))⟩ :=
      .of_columns (numbered ⟨2⟩ (by decide)) loadedAna (by decide) nofun
    rwa [mean] at scored
  have nobodyScored : m.Scored [.zero] store ⟨⟨1⟩, "Nan", nan⟩ := by
    have mean : Single.mean ([[nan]].map (m.metric [.zero])) = nan := by decide +kernel
    have scored : m.Scored [.zero] store ⟨_, _, Single.mean ([[nan]].map (m.metric [.zero]))⟩ :=
      .of_columns (numbered ⟨1⟩ (by decide)) loadedNobody (by decide) nofun
    rwa [mean] at scored
  have near : Single.zero.lt m.threshold = true := by decide
  obtain ⟨first, firstScored, undefined, -, rejected⟩ :=
    (accepted_iff_no_negative_nan m store (by decide) anaScored near).2 _ nobodyScored
      (by decide) (by decide)
  refine ⟨between, store, savedNobody, savedAna, anaScored, near, ?_⟩
  -- slot 2 scores a number, and slots without a file score nothing
  have isNobody : first = ⟨⟨1⟩, "Nan", nan⟩ := by
    refine firstScored.unique nobodyScored ?_
    by_cases isAna : first.slot = ⟨2⟩
    · rw [firstScored.unique anaScored isAna] at undefined
      cases undefined
    · by_cases isOne : first.slot = ⟨1⟩
      · exact isOne
      · obtain ⟨_, loaded, _⟩ := firstScored
        rw [Store.load_of_entry?_eq_none (by rw [entries, if_neg isAna, if_neg isOne])] at loaded
        cases loaded
  rw [rejected, isNobody]

end Matcher

end DriverMonitor
