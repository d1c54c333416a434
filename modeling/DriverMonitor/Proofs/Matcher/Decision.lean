import DriverMonitor.Identity.Matcher
import DriverMonitor.Proofs.Store.FileName

/-! # Whom a probe belongs to

`Scored` says which slots have a score, and what it is, without the lists and folds by which it is
found: a slot is looked at, its file is a profile, and some vector of it is as long as the probe.
`Winner` is the least of these by distance and then by slot. The decision of a matcher is one on the
winner alone, and what no slot has scored does not matter to it.

That the first candidate of least distance is the one of least slot rests on the order in which slots
are listed; everything else is the invariant of one fold, `precedes_foldl`.
-/

namespace DriverMonitor

open Number (Single)

/-! ## The order of candidates -/

namespace Candidate

def Precedes (c d : Candidate) : Prop :=
  c.distance.total d.distance = .lt ∨
    c.distance.total d.distance = .eq ∧ c.slot.toNat ≤ d.slot.toNat

theorem precedes_iff {c d : Candidate} :
    c.Precedes d ↔ c.distance.rank < d.distance.rank ∨
      c.distance.rank = d.distance.rank ∧ c.slot.toNat ≤ d.slot.toNat := by
  rw [Precedes, Single.total, Int.compare_eq_lt, Int.compare_eq_eq]

theorem Precedes.refl (c : Candidate) : c.Precedes c :=
  precedes_iff.mpr (.inr ⟨rfl, Nat.le_refl _⟩)

theorem Precedes.trans {c d e : Candidate} (first : c.Precedes d) (second : d.Precedes e) :
    c.Precedes e := by
  rw [precedes_iff] at *
  omega

/-- Candidates that precede each other are of one slot. -/
theorem Precedes.slot_eq {c d : Candidate} (first : c.Precedes d) (second : d.Precedes c) :
    c.slot = d.slot := by
  rw [precedes_iff] at first second
  exact SlotId.toNat_inj.mp (by omega)

def nearer (best c : Candidate) : Candidate :=
  if (c.distance.total best.distance).isLT then c else best

theorem nearer_eq_or (best c : Candidate) : nearer best c = best ∨ nearer best c = c := by
  rw [nearer]
  split
  · exact .inr rfl
  · exact .inl rfl

/-- Of two candidates in the order of their slots, the one that stays precedes both. -/
theorem nearer_precedes {best c : Candidate} (later : best.slot.toNat < c.slot.toNat) :
    (nearer best c).Precedes best ∧ (nearer best c).Precedes c := by
  by_cases below : c.distance.rank < best.distance.rank
  · have replaced : nearer best c = c := by
      rw [nearer, Single.total, Int.compare_eq_lt.mpr below]
      rfl
    rw [replaced]
    exact ⟨precedes_iff.mpr (.inl below), .refl c⟩
  · have kept : nearer best c = best := by
      have notLess : c.distance.total best.distance ≠ .lt := fun less =>
        below (Int.compare_eq_lt.mp less)
      rw [nearer, if_neg (fun less => notLess (Ordering.isLT_iff_eq_lt.mp less))]
    rw [kept]
    refine ⟨.refl best, precedes_iff.mpr ?_⟩
    -- where the ranks are equal, the slot of the one that stays is lower
    omega

def InOrder (cs : List Candidate) : Prop := cs.Pairwise (·.slot.toNat < ·.slot.toNat)

/-- The fold keeps a candidate that it has seen and that precedes all of those. -/
theorem precedes_foldl {best : Candidate} {rest : List Candidate} (inOrder : InOrder (best :: rest)) :
    rest.foldl nearer best ∈ best :: rest ∧
      ∀ d ∈ best :: rest, (rest.foldl nearer best).Precedes d := by
  induction rest generalizing best with
  | nil =>
    refine ⟨List.mem_singleton.mpr rfl, ?_⟩
    intro d present
    rw [List.mem_singleton.mp present]
    exact .refl best
  | cons c rest ih =>
    obtain ⟨bestLeast, restInOrder⟩ := List.pairwise_cons.mp inOrder
    obtain ⟨cLeast, tailInOrder⟩ := List.pairwise_cons.mp restInOrder
    -- whichever of the two stays is below the slots to come
    have nextInOrder : InOrder (nearer best c :: rest) := by
      refine List.pairwise_cons.mpr ⟨?_, tailInOrder⟩
      intro d present
      obtain stays | replaced := nearer_eq_or best c
      · rw [stays]
        exact bestLeast d (List.mem_cons_of_mem c present)
      · rw [replaced]
        exact cLeast d present
    obtain ⟨member, least⟩ := ih nextInOrder
    have overNext := least (nearer best c) List.mem_cons_self
    obtain ⟨overBest, overC⟩ := nearer_precedes (bestLeast c List.mem_cons_self)
    rw [List.foldl_cons]
    refine ⟨?_, ?_⟩
    · obtain isNext | later := List.mem_cons.mp member
      · rw [isNext]
        obtain stays | replaced := nearer_eq_or best c
        · rw [stays]
          exact List.mem_cons_self
        · rw [replaced]
          exact List.mem_cons_of_mem best List.mem_cons_self
      · exact List.mem_cons_of_mem best (List.mem_cons_of_mem c later)
    · intro d present
      obtain rfl | present := List.mem_cons.mp present
      · exact overNext.trans overBest
      · obtain rfl | later := List.mem_cons.mp present
        · exact overNext.trans overC
        · exact least d (List.mem_cons_of_mem (nearer best c) later)

theorem nearest?_eq_none_iff {cs : List Candidate} : nearest? cs = none ↔ cs = [] := by
  cases cs with
  | nil => exact ⟨fun _ => rfl, fun _ => rfl⟩
  | cons c rest => exact ⟨nofun, nofun⟩

/-- The candidate that is chosen precedes all others. -/
theorem nearest?_spec {cs : List Candidate} (inOrder : InOrder cs) {c : Candidate}
    (chosen : nearest? cs = some c) : c ∈ cs ∧ ∀ d ∈ cs, c.Precedes d := by
  cases cs with
  | nil => cases chosen
  | cons first rest =>
    cases chosen
    exact precedes_foldl inOrder

end Candidate

/-! ## Scores -/

/-- The slots that a matcher looks at: those that the store lists, or those for enrollment where
nothing can be listed. -/
def Store.LooksAt (store : Store) (slot : SlotId) : Prop :=
  match store.slots with
  | .ok slots => slot ∈ slots
  | .error _ => 1 ≤ slot.toNat ∧ slot.toNat ≤ store.capacity.toNat

/-- The slots for enrollment are always looked at. -/
theorem Store.looksAt_of_numbered {store : Store} {slot : SlotId}
    (numbered : 1 ≤ slot.toNat ∧ slot.toNat ≤ store.capacity.toNat) : store.LooksAt slot := by
  rw [LooksAt]
  cases listed : store.slots with
  | error reason => exact numbered
  | ok slots =>
    cases present : store.directory with
    | none =>
      rw [Store.slots, present] at listed
      cases listed
    | some d => exact (mem_slots_iff present listed).mpr (.inr (mem_numbered.mpr numbered))

namespace Matcher

variable {m : Matcher} {probe : Embedding} {store : Store}

/-- The candidates of a store: slots whose file is a profile with a vector as long as the probe, each
at the mean distance to just these vectors. -/
inductive Scored (m : Matcher) (probe : Embedding) (store : Store) : Candidate → Prop where
  | intro {slot : SlotId} {profile : Profile} (looked : store.LooksAt slot)
      (loaded : store.load slot = .ok (some profile))
      (comparable : ∃ v ∈ profile.embeddings, v.values.length = probe.length) :
      Scored m probe store
        ⟨slot, profile.name, Single.mean
          ((profile.embeddings.filter (·.values.length = probe.length)).map
            fun v => m.metric probe v.values)⟩

structure Winner (m : Matcher) (probe : Embedding) (store : Store) (c : Candidate) : Prop where
  scored : m.Scored probe store c
  least : ∀ d, m.Scored probe store d → c.Precedes d

theorem mem_scoredSlots {slot : SlotId} : slot ∈ scoredSlots store ↔ store.LooksAt slot := by
  rw [scoredSlots, Store.LooksAt]
  cases store.slots with
  | ok slots => exact Iff.rfl
  | error reason => exact Store.mem_numbered

theorem increasing_scoredSlots (store : Store) : SlotId.Increasing (scoredSlots store) := by
  rw [scoredSlots]
  cases listed : store.slots with
  | ok slots => exact Store.increasing_slots listed
  | error reason => exact Store.increasing_numbered store

theorem readable?_eq_some_iff {slot : SlotId} {profile : Profile} :
    readable? store slot = some profile ↔ store.load slot = .ok (some profile) := by
  rw [readable?]
  cases store.load slot with
  | error reason => exact ⟨nofun, nofun⟩
  | ok found =>
    rw [Except.ok.injEq]
    exact Iff.rfl

theorem scoreProfile_eq_some_iff {profile : Profile} {distance : Single} :
    m.scoreProfile probe profile = some distance ↔
      (∃ v ∈ profile.embeddings, v.values.length = probe.length) ∧
        Single.mean ((profile.embeddings.filter (·.values.length = probe.length)).map
          fun v => m.metric probe v.values) = distance := by
  have same : comparable probe profile =
      profile.embeddings.filter (·.values.length = probe.length) := rfl
  rw [scoreProfile, ← same]
  -- without an embedding of the right length there is no mean
  cases compared : comparable probe profile with
  | nil =>
    refine ⟨nofun, ?_⟩
    rintro ⟨⟨v, present, length⟩, -⟩
    have member : v ∈ comparable probe profile := by
      rw [same, List.mem_filter]
      exact ⟨present, decide_eq_true length⟩
    rw [compared] at member
    cases member
  | cons v rest =>
    have member : v ∈ comparable probe profile := by
      rw [compared]
      exact List.mem_cons_self
    rw [same, List.mem_filter] at member
    rw [Option.some.injEq]
    exact ⟨fun mean => ⟨⟨v, member.1, of_decide_eq_true member.2⟩, mean⟩, And.right⟩

def candidateOf (m : Matcher) (probe : Embedding) (store : Store) (slot : SlotId) :
    Option Candidate := do
  let profile ← readable? store slot
  let distance ← m.scoreProfile probe profile
  return ⟨slot, profile.name, distance⟩

theorem candidates_eq (m : Matcher) (probe : Embedding) (store : Store) :
    (m.scores probe store).filterMap SlotScore.candidate? =
      (scoredSlots store).filterMap (m.candidateOf probe store) := by
  rw [scores, List.filterMap_map]
  congr 1
  funext slot
  cases found : readable? store slot with
  | none => simp [SlotScore.candidate?, candidateOf, found]
  | some profile => simp [SlotScore.candidate?, candidateOf, found]

theorem candidateOf_eq_some_iff {slot : SlotId} {c : Candidate} :
    m.candidateOf probe store slot = some c ↔ ∃ profile distance,
      store.load slot = .ok (some profile) ∧ m.scoreProfile probe profile = some distance ∧
        c = ⟨slot, profile.name, distance⟩ := by
  simp only [candidateOf, Option.bind_eq_bind, Option.bind_eq_some_iff, Option.pure_def,
    Option.some.injEq, readable?_eq_some_iff]
  constructor
  · rintro ⟨profile, loaded, distance, scored, rfl⟩
    exact ⟨profile, distance, loaded, scored, rfl⟩
  · rintro ⟨profile, distance, loaded, scored, rfl⟩
    exact ⟨profile, loaded, distance, scored, rfl⟩

def candidates (m : Matcher) (probe : Embedding) (store : Store) : List Candidate :=
  (scoredSlots store).filterMap (m.candidateOf probe store)

/-- The fold goes over the scored candidates and no others. -/
theorem mem_candidates {c : Candidate} :
    c ∈ m.candidates probe store ↔ m.Scored probe store c := by
  simp only [candidates, List.mem_filterMap, candidateOf_eq_some_iff, mem_scoredSlots,
    scoreProfile_eq_some_iff]
  constructor
  · rintro ⟨slot, looked, profile, distance, loaded, ⟨comparable, rfl⟩, rfl⟩
    exact .intro looked loaded comparable
  · rintro ⟨looked, loaded, comparable⟩
    exact ⟨_, looked, _, _, loaded, ⟨comparable, rfl⟩, rfl⟩

theorem inOrder_candidates (m : Matcher) (probe : Embedding) (store : Store) :
    Candidate.InOrder (m.candidates probe store) := by
  refine (increasing_scoredSlots store).filterMap _ ?_
  intro a b below c ofA d ofB
  obtain ⟨_, _, _, _, rfl⟩ := candidateOf_eq_some_iff.mp ofA
  obtain ⟨_, _, _, _, rfl⟩ := candidateOf_eq_some_iff.mp ofB
  exact below

/-- A slot scores once. -/
theorem Scored.unique {c d : Candidate} (first : m.Scored probe store c)
    (second : m.Scored probe store d) (sameSlot : c.slot = d.slot) : c = d := by
  obtain ⟨_, loaded, _⟩ := first
  obtain ⟨_, alsoLoaded, _⟩ := second
  cases sameSlot
  rw [loaded] at alsoLoaded
  cases alsoLoaded
  rfl

/-- The candidate that a slot makes whose vectors are columns, all as long as the probe. -/
theorem Scored.of_columns {slot : SlotId} {name : String} {embeddings : List Embedding}
    {weights : GazeCoefficients} (looked : store.LooksAt slot)
    (loaded : store.load slot = .ok (some ⟨name, embeddings.map .column, weights⟩))
    (fits : ∀ e ∈ embeddings, e.length = probe.length) (nonempty : embeddings ≠ []) :
    m.Scored probe store ⟨slot, name, Single.mean (embeddings.map (m.metric probe))⟩ := by
  obtain ⟨e, present⟩ := List.exists_mem_of_ne_nil embeddings nonempty
  have comparable : ∃ v ∈ embeddings.map EmbeddingVector.column, v.values.length = probe.length :=
    ⟨.column e, List.mem_map_of_mem present, fits e present⟩
  have scored := Scored.intro (m := m) looked loaded comparable
  have all : (embeddings.map EmbeddingVector.column).filter (·.values.length = probe.length) =
      embeddings.map EmbeddingVector.column := by
    refine List.filter_eq_self.mpr fun v stored => ?_
    obtain ⟨e, present, rfl⟩ := List.mem_map.mp stored
    exact decide_eq_true (fits e present)
  rw [all, List.map_map] at scored
  exact scored

theorem Winner.unique {c d : Candidate} (first : m.Winner probe store c)
    (second : m.Winner probe store d) : c = d :=
  first.scored.unique second.scored
    ((first.least d second.scored).slot_eq (second.least c first.scored))

/-! ## Decisions -/

def verdict (m : Matcher) (best : Candidate) : AuthOutcome :=
  if best.distance.lt m.threshold then .accepted best.slot best.name best.distance
  else .rejected (.noMatch best.slot best.distance)

theorem decide_scores_of_none (unscored : ∀ c, ¬ m.Scored probe store c) :
    m.decide (m.scores probe store) = .rejected .noEnrolledDrivers := by
  have empty : m.candidates probe store = [] :=
    List.eq_nil_iff_forall_not_mem.mpr fun c present => unscored c (mem_candidates.mp present)
  rw [decide, candidates_eq, ← candidates, Candidate.nearest?_eq_none_iff.mpr empty]

/-- Where anything has scored there is a winner, and the decision is the verdict on it. -/
theorem exists_winner {c : Candidate} (scored : m.Scored probe store c) :
    ∃ best, m.Winner probe store best ∧ m.decide (m.scores probe store) = m.verdict best := by
  cases chosen : Candidate.nearest? (m.candidates probe store) with
  | none =>
    have present := mem_candidates.mpr scored
    rw [Candidate.nearest?_eq_none_iff.mp chosen] at present
    cases present
  | some best =>
    obtain ⟨member, least⟩ := Candidate.nearest?_spec (inOrder_candidates m probe store) chosen
    refine ⟨best, ⟨mem_candidates.mp member, ?_⟩, ?_⟩
    · intro d dScored
      exact least d (mem_candidates.mpr dScored)
    · rw [decide, candidates_eq, ← candidates, chosen]
      rfl

/-- The decision depends on the scored candidates only. -/
theorem decide_scores_congr {other : Store}
    (same : ∀ c, m.Scored probe other c ↔ m.Scored probe store c) :
    m.decide (m.scores probe other) = m.decide (m.scores probe store) := by
  by_cases anyScored : ∃ c, m.Scored probe store c
  · obtain ⟨c, scored⟩ := anyScored
    obtain ⟨best, winner, decided⟩ := exists_winner scored
    obtain ⟨otherBest, otherWinner, otherDecided⟩ := exists_winner ((same c).mpr scored)
    -- who wins is said in terms of scores alone, so the winners are the same
    have alsoWinner : m.Winner probe store otherBest := by
      refine ⟨(same otherBest).mp otherWinner.scored, ?_⟩
      intro d dScored
      exact otherWinner.least d ((same d).mpr dScored)
    rw [decided, otherDecided, alsoWinner.unique winner]
  · have unscored : ∀ c, ¬ m.Scored probe store c := fun c scored => anyScored ⟨c, scored⟩
    rw [decide_scores_of_none unscored,
      decide_scores_of_none fun c scored => unscored c ((same c).mp scored)]

/-- Nothing is asked of the store unless there is exactly one face. -/
theorem authenticate_of_faceCount (m : Matcher) {faces : List Embedding} (store : Store)
    (several : faces.length ≠ 1) :
    m.authenticate faces store = .ok (.rejected (.faceCount faces.length)) := by
  match faces, several with
  | [], _ => rfl
  | _ :: _ :: _, _ => rfl

theorem authenticate_of_length_ne (m : Matcher) {probe : Embedding} (store : Store) {expected : Nat}
    (configured : m.embeddingDim = some expected) (wrong : probe.length ≠ expected) :
    m.authenticate [probe] store = .error (.dimensionMismatch expected probe.length) := by
  have refused : m.probe [probe] = .error (.dimensionMismatch expected probe.length) := by
    rw [Matcher.probe, configured]
    exact if_neg wrong
  rw [authenticate, refused]
  rfl

theorem authenticate_of_probe (m : Matcher) {probe : Embedding} (store : Store)
    (fits : ∀ expected, m.embeddingDim = some expected → probe.length = expected) :
    m.authenticate [probe] store = .ok (m.decide (m.scores probe store)) := by
  have admitted : m.probe [probe] = .ok (.ok probe) := by
    rw [Matcher.probe]
    cases configured : m.embeddingDim with
    | none => rfl
    | some expected => exact if_pos (fits expected configured)
  rw [authenticate, admitted]
  rfl

/-- The decision of a matcher. The number of faces comes first and the length of the probe second,
both whatever the store and the metric are. Then the winner is accepted exactly if it is nearer than
the threshold; only where nothing has a score there is none. Stores with the same scores are decided
on alike, so a slot without one cannot matter. -/
theorem authenticate_decision (m : Matcher) (faces : List Embedding) (store : Store) :
    (faces.length ≠ 1 → ∀ metric other, { m with metric }.authenticate faces other =
        .ok (.rejected (.faceCount faces.length))) ∧
      (∀ probe expected, faces = [probe] → m.embeddingDim = some expected →
        probe.length ≠ expected → ∀ metric other, { m with metric }.authenticate faces other =
          .error (.dimensionMismatch expected probe.length)) ∧
      (∀ probe, faces = [probe] →
        (∀ expected, m.embeddingDim = some expected → probe.length = expected) →
        ((∀ c, ¬ m.Scored probe store c) ∧
            m.authenticate faces store = .ok (.rejected .noEnrolledDrivers) ∨
          ∃ best, m.Winner probe store best ∧ (∀ c, m.Winner probe store c → c = best) ∧
            m.authenticate faces store = .ok (
              if best.distance.lt m.threshold then .accepted best.slot best.name best.distance
              else .rejected (.noMatch best.slot best.distance))) ∧
        ∀ other, (∀ c, m.Scored probe other c ↔ m.Scored probe store c) →
          m.authenticate faces other = m.authenticate faces store) := by
  refine ⟨?_, ?_, ?_⟩
  · intro several metric other
    exact authenticate_of_faceCount _ other several
  · rintro probe expected rfl configured wrong metric other
    exact authenticate_of_length_ne _ other configured wrong
  · rintro probe rfl fits
    refine ⟨?_, ?_⟩
    · rw [authenticate_of_probe m store fits]
      -- whether anything scored decides if there is a winner
      by_cases anyScored : ∃ c, m.Scored probe store c
      · obtain ⟨c, scored⟩ := anyScored
        obtain ⟨best, winner, decided⟩ := exists_winner scored
        refine .inr ⟨best, winner, fun c other => other.unique winner, ?_⟩
        rw [decided, verdict]
      · have unscored : ∀ c, ¬ m.Scored probe store c := fun c scored => anyScored ⟨c, scored⟩
        exact .inl ⟨unscored, congrArg Except.ok (decide_scores_of_none unscored)⟩
    · intro other same
      rw [authenticate_of_probe m other fits, authenticate_of_probe m store fits,
        decide_scores_congr same]

end Matcher

end DriverMonitor
