import DriverMonitor.Gaze.Model
import DriverMonitor.Proofs.Number.Order
import DriverMonitor.Proofs.Store.ReadBack

/-! # The calibration of an enrolled driver

A profile has no place for a missing calibration: a driver without one is stored with zero weights,
and weights that all equal zero are taken for none. They are filtered out twice, once when the profile
is asked for its calibration and once more when a model is chosen. `Store.calibration_of_enroll` says
what comes of that: weights are back bit for bit unless they all equal zero, and these might as well
not have been given.
-/

namespace DriverMonitor

/-! ## Weights that all equal zero -/

namespace GazeCoefficients

def AllZero (c : GazeCoefficients) : Prop :=
  ∀ w ∈ c.horizontal.toList ++ c.vertical.toList, (w.toFloat32 == 0) = true

theorem isCalibrated_eq_false_iff {c : GazeCoefficients} : c.isCalibrated = false ↔ c.AllZero := by
  rw [isCalibrated, List.any_eq_false]
  apply forall₂_congr
  intro w present
  rw [Number.Single.isNonzero_iff_ne_zero, Bool.not_eq_false]

example : AllZero ⟨.replicate .negativeZero, .replicate .zero⟩ :=
  isCalibrated_eq_false_iff.mp (by decide)

theorem not_allZero_iff {c : GazeCoefficients} :
    ¬ c.AllZero ↔ ∃ w ∈ c.horizontal.toList ++ c.vertical.toList, (w.toFloat32 == 0) = false := by
  simp only [AllZero, Classical.not_forall, Bool.not_eq_true, exists_prop]

theorem allZero_zero : zero.AllZero := isCalibrated_eq_false_iff.mp (by decide)

end GazeCoefficients

/-! ## Choosing a model -/

section Choice

variable {c : GazeCoefficients} {strategy : GazeStrategy} {config : Config}

theorem Profile.calibration?_of_allZero {p : Profile} (zero : p.weights.AllZero) :
    p.calibration? = none := by
  simp [calibration?, GazeCoefficients.isCalibrated_eq_false_iff.mpr zero]

theorem Profile.calibration?_of_not_allZero {p : Profile} (nonzero : ¬ p.weights.AllZero) :
    p.calibration? = some p.weights := by
  rw [← GazeCoefficients.isCalibrated_eq_false_iff, Bool.not_eq_false] at nonzero
  simp [calibration?, nonzero]

/-- Weights that are not all zero are used, unless the strategy asks for the pose. -/
theorem GazeModel.select_some_of_not_allZero (nonzero : ¬ c.AllZero) :
    select strategy (some c) config =
      .ok (if strategy = .pose then .pose (poseOf config) else .analytic c) := by
  rw [← GazeCoefficients.isCalibrated_eq_false_iff, Bool.not_eq_false] at nonzero
  have kept : (some c).filter GazeCoefficients.isCalibrated = some c := by simp [nonzero]
  unfold select
  rw [kept]
  cases strategy <;> rfl

/-- The model for a driver who was just enrolled, as a replay for that slot chooses it. -/
def GazeModel.selectEnrolled (enrollment : Except Failure (SlotId × Store)) (strategy : GazeStrategy)
    (config : Config) : Except Failure (GazeModel Float) := do
  let (slot, s) ← enrollment
  let profile ← s.load slot
  select strategy (profile.bind Profile.calibration?) config

theorem GazeModel.selectEnrolled_of_load {s : Store} {slot : SlotId} {p : Profile}
    (loaded : s.load slot = .ok (some p)) :
    selectEnrolled (.ok (slot, s)) strategy config = select strategy p.calibration? config := by
  rw [selectEnrolled]
  change (s.load slot >>= _) = _
  rw [loaded]
  rfl

end Choice

namespace Store

variable {s next : Store} {slot : SlotId}

/-! ## Enrolling with other weights -/

section Enrollment

variable {policy : EnrollmentPolicy} {given : Option SlotId} {name : String}
variable {embeddings : List Embedding} {weights : Option GazeCoefficients} {failure : Failure}

/-- Whether an enrollment is refused, and why, does not depend on the weights. -/
theorem enroll_error_of_enroll_error (other : Option GazeCoefficients)
    (refused : s.enroll policy given name embeddings weights = .error failure) :
    s.enroll policy given name embeddings other = .error failure := by
  cases accepted : policy.check embeddings with
  | error cause =>
    rw [enroll_of_check_error accepted] at refused ⊢
    exact refused
  | ok _ =>
    cases chosen : s.enrollmentSlot given with
    | error cause =>
      rw [enroll_of_slot_error accepted chosen] at refused ⊢
      exact refused
    | ok target =>
      rw [enroll_of_slot accepted chosen] at refused ⊢
      cases saved : s.save target (newcomer name embeddings weights) with
      | ok after =>
        rw [saved] at refused
        cases refused
      | error cause =>
        have unsaved : s.save target (newcomer name embeddings other) = .error cause :=
          save_eq_error_iff.mpr (save_eq_error_iff.mp saved)
        rw [saved] at refused
        rw [unsaved]
        exact refused

/-- Nor does the slot of an enrollment. -/
theorem exists_enroll_of_enroll (other : Option GazeCoefficients)
    (enrolled : s.enroll policy given name embeddings weights = .ok (slot, next)) :
    ∃ after, s.enroll policy given name embeddings other = .ok (slot, after) := by
  cases attempt : s.enroll policy given name embeddings other with
  | error failure =>
    rw [enroll_error_of_enroll_error weights attempt] at enrolled
    cases enrolled
  | ok result =>
    obtain ⟨target, after⟩ := result
    have chosen := (save_of_enroll enrolled).2.1
    rw [(save_of_enroll attempt).2.1] at chosen
    cases chosen
    exact ⟨after, rfl⟩

/-! ## The calibration that comes back -/

/-- What was enrolled is read back if it is within the limits of the format. -/
theorem load_of_enroll (few : embeddings.length ≤ maxVectors)
    (short : ∀ e ∈ embeddings, e.length ≤ maxVectorValues)
    (shortName : (Text.utf8 name).length ≤ maxNameBytes)
    (enrolled : s.enroll policy given name embeddings weights = .ok (slot, next)) :
    next.load slot = .ok (some (newcomer name embeddings weights)) := by
  obtain ⟨-, -, saved⟩ := save_of_enroll enrolled
  have file : next.entry? slot = some (.file (newcomer name embeddings weights).encode) := by
    rw [entry?_save saved, if_pos rfl]
  exact (load_eq_ok_some_iff file).mpr ((readable_newcomer_iff short).mpr ⟨few, shortName⟩)

/-- The calibration of an enrolled driver is the one given, bit for bit, exactly if some weight
differs from zero, which what is not a number does and negative zero does not. It decides the model
of each strategy, and giving only zeros is giving none. -/
theorem calibration_of_enroll (s : Store) (policy : EnrollmentPolicy) (given : Option SlotId)
    (few : embeddings.length ≤ maxVectors)
    (short : ∀ e ∈ embeddings, e.length ≤ maxVectorValues)
    (shortName : (Text.utf8 name).length ≤ maxNameBytes) :
    (∀ c slot next, s.enroll policy given name embeddings (some c) = .ok (slot, next) →
      ∃ p, next.load slot = .ok (some p) ∧
        (p.calibration? = some c ↔
          ∃ w ∈ c.horizontal.toList ++ c.vertical.toList, (w.toFloat32 == 0) = false) ∧
        (p.calibration? = none ↔ c.AllZero) ∧
        ∀ config,
          (GazeModel.select .auto p.calibration? config = .ok (.analytic c) ↔
            p.calibration?.isSome = true) ∧
          (GazeModel.select .auto p.calibration? config = .ok (.pose (GazeModel.poseOf config)) ↔
            p.calibration? = none) ∧
          (GazeModel.select .analytic p.calibration? config = .ok (.analytic c) ↔
            p.calibration?.isSome = true) ∧
          (GazeModel.select .analytic p.calibration? config = .error .calibrationMissing ↔
            p.calibration? = none) ∧
          GazeModel.select .pose p.calibration? config = .ok (.pose (GazeModel.poseOf config))) ∧
    ∀ zero : GazeCoefficients, zero.AllZero → ∀ strategy config,
      GazeModel.selectEnrolled (s.enroll policy given name embeddings none) strategy config =
        GazeModel.selectEnrolled (s.enroll policy given name embeddings (some zero)) strategy
          config := by
  constructor
  · intro c slot next enrolled
    refine ⟨newcomer name embeddings (some c), load_of_enroll few short shortName enrolled, ?_⟩
    rw [← GazeCoefficients.not_allZero_iff]
    -- the two possible calibrations, none and the one that was given
    by_cases zero : c.AllZero
    · have nothing : (newcomer name embeddings (some c)).calibration? = none :=
        Profile.calibration?_of_allZero zero
      rw [nothing]
      simp [zero, GazeModel.select]
    · have given : (newcomer name embeddings (some c)).calibration? = some c :=
        Profile.calibration?_of_not_allZero zero
      rw [given]
      simp [zero, GazeModel.select_some_of_not_allZero zero]
  · intro zero allZero strategy config
    cases enrolled : s.enroll policy given name embeddings none with
    | error failure => rw [enroll_error_of_enroll_error _ enrolled]
    | ok result =>
      obtain ⟨slot, next⟩ := result
      -- the two files differ in the signs of zeros at most, which no calibration shows
      obtain ⟨after, same⟩ := exists_enroll_of_enroll (some zero) enrolled
      rw [same, GazeModel.selectEnrolled_of_load (load_of_enroll few short shortName enrolled),
        GazeModel.selectEnrolled_of_load (load_of_enroll few short shortName same),
        Profile.calibration?_of_allZero GazeCoefficients.allZero_zero,
        Profile.calibration?_of_allZero allZero]

/-- One weight that is not a number makes a calibration of nothing but zeros. -/
theorem calibration_of_enroll_undefined_weight :
    let weights : GazeCoefficients :=
      ⟨.replicate .negativeZero, { Terms.replicate .zero with pupil := .undefined }⟩
    let store : Store := { directory := some .empty, capacity := 1 }
    ∃ next, store.enroll ⟨1, 1⟩ none "Ana" [[.zero]] (some weights) = .ok (⟨1⟩, next) ∧
      ∃ p, next.load ⟨1⟩ = .ok (some p) ∧ p.calibration? = some weights := by
  intro weights store
  have chosen : store.enrollmentSlot none = .ok ⟨1⟩ := enrollmentSlot_none_of_free (by decide)
  have enrolled : store.enroll ⟨1, 1⟩ none "Ana" [[.zero]] (some weights) = .ok (⟨1⟩, _) :=
    enroll_of_slot rfl chosen
  have few : [[Number.Single.zero]].length ≤ maxVectors := by decide
  have short : ∀ e ∈ [[Number.Single.zero]], e.length ≤ maxVectorValues := by decide
  have shortName : (Text.utf8 "Ana").length ≤ maxNameBytes := by decide +kernel
  have spec := calibration_of_enroll store ⟨1, 1⟩ none few short shortName
  obtain ⟨p, loaded, given, -⟩ := spec.1 weights _ _ enrolled
  have differs : (Number.Single.undefined.toFloat32 == 0) = false :=
    Number.Single.isNonzero_iff_ne_zero.mp (by decide)
  exact ⟨_, enrolled, p, loaded, given.mpr ⟨.undefined, by decide, differs⟩⟩

end Enrollment

end Store

end DriverMonitor
