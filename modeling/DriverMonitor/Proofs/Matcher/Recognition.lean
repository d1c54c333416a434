import DriverMonitor.Proofs.Matcher.Decision
import DriverMonitor.Proofs.Number.Sign
import DriverMonitor.Proofs.Store.ReadBack

/-! # Whoever was enrolled is recognized

An embedding is at distance zero from itself, so a driver who was enrolled with copies of one
embedding is at mean distance zero from it. Nobody is nearer, as no distance is negative; but another
slot may be as near, and then the lower one is accepted.

That no distance is a negative zero, which would be nearer still, rests on there being something to
compare: embeddings of length zero are at that distance.
-/

namespace DriverMonitor

open Number (Single)

/-! ## Distances -/

namespace Metric

theorem euclidean_self {v : Embedding} (nonempty : v ≠ []) (finite : ∀ x ∈ v, x.IsFinite) :
    euclidean v v = .zero := by
  have squares : List.zipWith (fun a b => (a - b) * (a - b)) v v = .replicate v.length .zero := by
    rw [List.zipWith_self, ← List.map_const']
    refine List.map_congr_left fun x present => ?_
    rw [Single.sub_self (finite x present), Single.zero_mul_zero]
  rw [euclidean, squares, Single.sum_replicate_zero (List.length_pos_iff.mpr nonempty),
    Single.sqrt_zero]

theorem notNegative_euclidean {probe stored : Embedding} (nonempty : probe ≠ [])
    (same : stored.length = probe.length) : (euclidean probe stored).NotNegative := by
  apply Single.NotNegative.sqrt
  apply Single.notNegative_sum
  · intro square present
    rw [← List.map_uncurry_zip_eq_zipWith] at present
    obtain ⟨pair, -, rfl⟩ := List.mem_map.mp present
    exact Single.notNegative_mul_self _
  · rw [ne_eq, List.zipWith_eq_nil_iff]
    rintro (empty | empty)
    · exact nonempty empty
    · apply nonempty
      rw [← List.length_eq_zero_iff, ← same, empty, List.length_nil]

end Metric

namespace Store

variable {s next : Store} {given : Option SlotId} {slot : SlotId}

theorem within_of_enrollmentSlot (chosen : s.enrollmentSlot given = .ok slot) :
    Within s.capacity slot := by
  cases given with
  | none =>
    cases free : s.nextFree? with
    | none =>
      rw [enrollmentSlot_none_of_full free] at chosen
      cases chosen
    | some lowest =>
      rw [enrollmentSlot_none_of_free free] at chosen
      cases chosen
      exact (nextFree?_eq_some_iff.mp free).within
  | some asked =>
    by_cases within : Within s.capacity asked
    · rw [enrollmentSlot_some_of_within within] at chosen
      cases chosen
      exact within
    · rw [enrollmentSlot_some_of_not_within within] at chosen
      cases chosen

end Store

namespace Matcher

variable {m : Matcher} {probe : Embedding} {store : Store} {c : Candidate}

theorem Scored.notNegative (euclidean : m.metric = .euclidean) (nonempty : probe ≠ [])
    (scored : m.Scored probe store c) : c.distance.NotNegative := by
  obtain ⟨_, _, v, present, length⟩ := scored
  apply Single.notNegative_mean
  · intro distance compared
    obtain ⟨w, comparable, rfl⟩ := List.mem_map.mp compared
    rw [euclidean]
    exact Metric.notNegative_euclidean nonempty (of_decide_eq_true (List.mem_filter.mp comparable).2)
  · rw [ne_eq, List.map_eq_nil_iff, List.filter_eq_nil_iff]
    exact fun none => none v present (decide_eq_true length)

/-- Nothing is nearer than distance zero. -/
theorem Winner.eq_zero (winner : m.Winner probe store c) (number : c.distance.isNaN = false)
    (notNegative : c.distance.NotNegative) {zero : Candidate} (scored : m.Scored probe store zero)
    (atZero : zero.distance = .zero) : c.distance = .zero ∧ c.slot.toNat ≤ zero.slot.toNat := by
  have nearest := Candidate.precedes_iff.mp (winner.least zero scored)
  -- among numbers, only those with a minus sign are ordered below zero
  have above : Single.zero.rank ≤ c.distance.rank := by
    have zeroRank : Single.zero.rank = 0 := rfl
    rw [zeroRank, Single.rank_eq, notNegative number, if_neg Bool.false_ne_true]
    exact Int.natCast_nonneg _
  rw [atZero] at nearest
  exact ⟨Single.rank_inj.mp (by omega), by omega⟩

end Matcher

namespace Store

variable {s next : Store} {policy : EnrollmentPolicy} {given : Option SlotId} {slot : SlotId}
variable {name : String} {embeddings : List Embedding} {weights : Option GazeCoefficients}

/-- Within the limits of reading, an enrolled driver has a score for every probe of the right length,
and all the embeddings count. -/
theorem scored_of_enroll {m : Matcher} {probe : Embedding}
    (enrolled : s.enroll policy given name embeddings weights = .ok (slot, next))
    (dim : policy.embeddingDim ≤ maxVectorValues) (fits : probe.length = policy.embeddingDim)
    (nonempty : embeddings ≠ []) (few : embeddings.length ≤ maxVectors)
    (shortName : (Text.utf8 name).length ≤ maxNameBytes) :
    m.Scored probe next ⟨slot, name, Single.mean (embeddings.map (m.metric probe))⟩ := by
  obtain ⟨accepted, chosen, saved⟩ := save_of_enroll enrolled
  obtain ⟨-, lengths⟩ := EnrollmentPolicy.check_eq_ok_iff.mp accepted
  have within := within_of_enrollmentSlot chosen
  have looked : next.LooksAt slot := by
    rw [← capacity_save saved] at within
    exact looksAt_of_numbered within
  have short : ∀ e ∈ embeddings, e.length ≤ maxVectorValues := by
    intro e present
    rw [lengths e present]
    exact dim
  have file : next.entry? slot = some (.file (newcomer name embeddings weights).encode) := by
    rw [entry?_save saved, if_pos rfl]
  have loaded : next.load slot = .ok (some (newcomer name embeddings weights)) :=
    (load_eq_ok_some_iff file).mpr ((readable_newcomer_iff short).mpr ⟨few, shortName⟩)
  exact .of_columns looked loaded (fun e present => (lengths e present).trans fits.symm) nonempty

/-- A driver who was enrolled with copies of one embedding is recognized by it, at distance zero, as
long as no other slot scores something that is not a number. Only a lower slot that is also at
distance zero can be accepted instead, and then the lowest one is. -/
theorem authenticate_enrolled {copies : Nat} {v : Embedding} {threshold : Single}
    (dim : 1 ≤ policy.embeddingDim ∧ policy.embeddingDim ≤ maxVectorValues)
    (finite : ∀ x ∈ v, x.IsFinite) (count : 1 ≤ copies ∧ copies ≤ maxVectors)
    (shortName : (Text.utf8 name).length ≤ maxNameBytes)
    (enrolled : s.enroll policy given name (.replicate copies v) weights = .ok (slot, next))
    (positive : Single.zero.lt threshold = true) :
    let m : Matcher := { threshold, embeddingDim := some policy.embeddingDim }
    (∀ c, m.Scored v next c → c.slot ≠ slot → c.distance.isNaN = false) →
      ∃ best, m.Scored v next best ∧ best.distance = .zero ∧
        (∀ c, m.Scored v next c → c.distance = .zero → best.slot.toNat ≤ c.slot.toNat) ∧
        (best = ⟨slot, name, .zero⟩ ∨ best.slot.toNat < slot.toNat) ∧
        m.authenticate [v] next = .ok (.accepted best.slot best.name .zero) := by
  intro m numbers
  obtain ⟨accepted, -, -⟩ := save_of_enroll enrolled
  obtain ⟨-, lengths⟩ := EnrollmentPolicy.check_eq_ok_iff.mp accepted
  have present : v ∈ List.replicate copies v := List.mem_replicate.mpr ⟨by omega, rfl⟩
  have fits := lengths v present
  have nonempty : v ≠ [] := List.ne_nil_of_length_pos (by omega)
  -- the mean of zeros is zero, so the slot of the driver is one that the nearest is compared with
  have own : m.Scored v next ⟨slot, name, .zero⟩ := by
    have mean : Single.mean ((List.replicate copies v).map (Metric.euclidean v)) = .zero := by
      rw [List.map_replicate, Metric.euclidean_self nonempty finite,
        Single.mean_replicate_zero count.1]
    rw [← mean]
    exact scored_of_enroll enrolled dim.2 fits (List.ne_nil_of_mem present)
      (by rw [List.length_replicate]; exact count.2) shortName
  obtain ⟨best, winner, decided⟩ := Matcher.exists_winner own
  -- the scores of other slots are numbers by assumption, and the own one is zero
  have number : best.distance.isNaN = false := by
    by_cases isOwn : best.slot = slot
    · have zeroNumber : Single.zero.isNaN = false := by decide
      rw [winner.scored.unique own isOwn, zeroNumber]
    · exact numbers best winner.scored isOwn
  have notNegative := winner.scored.notNegative rfl nonempty
  obtain ⟨atZero, notHigher⟩ := winner.eq_zero number notNegative own rfl
  refine ⟨best, winner.scored, atZero, ?_, ?_, ?_⟩
  · intro c scored alsoZero
    exact (winner.eq_zero number notNegative scored alsoZero).2
  · by_cases isOwn : best.slot = slot
    · exact .inl (winner.scored.unique own isOwn)
    · have different : best.slot.toNat ≠ slot.toNat := fun same => isOwn (SlotId.toNat_inj.mp same)
      exact .inr (Nat.lt_of_le_of_ne notHigher different)
  · have admitted : ∀ expected, m.embeddingDim = some expected → v.length = expected :=
      fun expected configured => fits.trans (Option.some.inj configured)
    rw [Matcher.authenticate_of_probe m next admitted, decided, Matcher.verdict, atZero,
      if_pos positive]

/-- Ana is enrolled next to Bob, who is further away. -/
theorem authenticate_enrolled_beside_another :
    let one : Single := ⟨0x3f800000⟩
    let policy : EnrollmentPolicy := { minSamples := 2, embeddingDim := 1 }
    let bob : Profile := { name := "Bob", embeddings := [.column [one]] }
    let empty : Store := { directory := some .empty, capacity := 4 }
    let m : Matcher := { threshold := ⟨0x3ee66666⟩, embeddingDim := some 1 }
    ∃ s next, empty.save ⟨1⟩ bob = .ok s ∧
      s.enroll policy none "Ana" [[.zero], [.zero]] none = .ok (⟨2⟩, next) ∧
      m.authenticate [[.zero]] next = .ok (.accepted ⟨2⟩ "Ana" .zero) := by
  intro one policy bob empty m
  let samples : List Embedding := .replicate 2 [.zero]
  obtain ⟨s, saved⟩ : ∃ s, empty.save ⟨1⟩ bob = .ok s := ⟨_, rfl⟩
  have free : s.nextFree? = some ⟨2⟩ := by
    cases saved
    decide +kernel
  obtain ⟨next, savedAna⟩ : ∃ next, s.save ⟨2⟩ (newcomer "Ana" samples none) = .ok next := by
    cases saved
    exact ⟨_, rfl⟩
  have enrolled : s.enroll policy none "Ana" samples none = .ok (⟨2⟩, next) := by
    rw [enroll_of_slot rfl (enrollmentSlot_none_of_free free), savedAna]
    rfl
  have entries (other : SlotId) : next.entry? other =
      if other = ⟨2⟩ then some (.file (newcomer "Ana" samples none).encode)
      else if other = ⟨1⟩ then some (.file bob.encode) else none := by
    rw [entry?_save savedAna, entry?_save saved]
    rfl
  have bobScored : m.Scored [.zero] next ⟨⟨1⟩, "Bob", one⟩ := by
    have capacity : next.capacity = 4 := (capacity_save savedAna).trans (capacity_save saved)
    have looked : next.LooksAt ⟨1⟩ := looksAt_of_numbered (by rw [capacity]; decide)
    have loaded : next.load ⟨1⟩ = .ok (some bob) :=
      (load_eq_ok_some_iff (entries ⟨1⟩)).mpr ⟨⟨by decide, by decide⟩, by decide +kernel⟩
    have mean : Single.mean ([[one]].map (m.metric [.zero])) = one := by decide +kernel
    rw [← mean]
    exact .of_columns looked loaded (by decide) nofun
  -- no slot but these two has a file
  have isBob : ∀ c, m.Scored [.zero] next c → c.slot ≠ ⟨2⟩ → c.distance = one := by
    intro c scored notAna
    by_cases isFirst : c.slot = ⟨1⟩
    · rw [scored.unique bobScored isFirst]
    · obtain ⟨_, loaded, _⟩ := scored
      rw [load_of_entry?_eq_none (by rw [entries, if_neg notAna, if_neg isFirst])] at loaded
      cases loaded
  have numbers : ∀ c, m.Scored [.zero] next c → c.slot ≠ ⟨2⟩ → c.distance.isNaN = false := by
    intro c scored notAna
    rw [isBob c scored notAna]
    decide
  have finite : ∀ x ∈ [Single.zero], x.IsFinite := by
    intro x present
    rw [List.mem_singleton.mp present]
    exact ⟨false, 0, -149, rfl⟩
  obtain ⟨best, scored, atZero, -, isAna | isLower, authenticated⟩ :=
    authenticate_enrolled (by decide) finite (by decide) (by decide +kernel) enrolled (by decide)
      numbers
  · rw [isAna] at authenticated
    exact ⟨s, next, saved, enrolled, authenticated⟩
  -- a lower slot would be that of Bob, who is not at distance zero
  · have notAna : best.slot ≠ ⟨2⟩ := by
      intro isAna
      rw [isAna] at isLower
      exact Nat.lt_irrefl _ isLower
    rw [isBob best scored notAna] at atZero
    exact absurd atZero (by decide)

end Store

end DriverMonitor
