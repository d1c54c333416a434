import DriverMonitor.Proofs.Face.Mirror
import DriverMonitor.Gaze.Calibration

/-! # Features that are no numbers

Weighing and fitting read the same ten features of a face, and both refuse a face if one of them is not
finite. In a weighted sum no weight can hide such a feature, since a product is finite only if both of
its factors are, also with a weight of zero; the fit looks at its features before it uses them.

What the fit of one axis and the fit of both decide is said here in general, for other proofs about
calibration.
-/

namespace DriverMonitor

open Number (Single Circular)

def GazeFeatures.toList {α : Type} (x : GazeFeatures α) : List α :=
  x.horizontal.toList ++ x.vertical.toList

/-- Some feature is not a number or infinite. -/
def GazeFeatures.IsDegenerate {α : Type} [Scalar α] (x : GazeFeatures α) : Prop :=
  ∃ value ∈ x.toList, Scalar.isFinite value = false

/-! ## Fitting -/

namespace Calibration

variable {α : Type} [Scalar α] {solver : LeastSquares α} {rows : List (Terms α)} {targets : List α}
variable {samples : List (CalibrationSample α)}

theorem fitAxis_of_not_isFinite (solver : LeastSquares α) (targets : List α) {row : Terms α} {x : α}
    (member : row ∈ rows) (entry : x ∈ row.toList) (nonfinite : Scalar.isFinite x = false) :
    fitAxis solver rows targets = .error (.degenerateGeometry .nonFiniteFeatures) := by
  have present : x ∈ (rows.map Terms.toList).flatten ++ targets := by
    simp only [List.mem_append, List.mem_flatten, List.mem_map]
    exact .inl ⟨row.toList, ⟨row, member, rfl⟩, entry⟩
  have notAll : ((rows.map Terms.toList).flatten ++ targets).all Scalar.isFinite = false := by
    simp only [List.all_eq_false]
    exact ⟨x, present, by simp [nonfinite]⟩
  simp only [fitAxis, notAll]
  rfl

theorem fitAxis_of_dependent
    (finite : ∀ x ∈ (rows.map Terms.toList).flatten ++ targets, Scalar.isFinite x = true)
    (dependent : solver.rank Terms.count (rows.map Terms.toList) < Terms.count) :
    fitAxis solver rows targets = .error (.degenerateGeometry .dependentFeatures) := by
  simp only [fitAxis, List.all_eq_true.mpr finite, Bool.not_true, Bool.false_eq_true, if_false,
    if_pos dependent]

theorem fitAxis_of_solution {weights : Terms α}
    (finite : ∀ x ∈ (rows.map Terms.toList).flatten ++ targets, Scalar.isFinite x = true)
    (independent : Terms.count ≤ solver.rank Terms.count (rows.map Terms.toList))
    (solved : solver.solve Terms.count (rows.map Terms.toList) targets = weights.toList) :
    fitAxis solver rows targets = .ok (weights.map Scalar.toSingle) := by
  simp only [fitAxis, List.all_eq_true.mpr finite, Bool.not_true, Bool.false_eq_true, if_false,
    if_neg independent.not_gt, solved, Terms.ofList?_toList]

/-- The fit of an axis fails in one way only. -/
theorem fitAxis_eq_error {failure : Failure} (failed : fitAxis solver rows targets = .error failure) :
    ∃ cause, failure = .degenerateGeometry cause := by
  simp only [fitAxis] at failed
  split at failed
  · cases failed
    exact ⟨_, rfl⟩
  · split at failed
    · cases failed
      exact ⟨_, rfl⟩
    · split at failed
      · cases failed
      · cases failed
        exact ⟨_, rfl⟩

def featuresOf (samples : List (CalibrationSample α)) : List (GazeFeatures α) :=
  samples.map fun s => .ofLandmarks (.ofFace s.face)

/-- With enough samples both axes are fitted, the horizontal one first. -/
theorem fitWith_eq (enough : Terms.count ≤ samples.length) :
    fitWith solver samples = do
      let horizontal ←
        fitAxis solver ((featuresOf samples).map (·.horizontal)) (samples.map (·.target.yaw))
      let vertical ←
        fitAxis solver ((featuresOf samples).map (·.vertical)) (samples.map (·.target.pitch))
      return ⟨horizontal, vertical⟩ := by
  simp only [fitWith, if_neg enough.not_gt, featuresOf]

theorem fitWith_of_horizontal {failure : Failure} (enough : Terms.count ≤ samples.length)
    (failed : fitAxis solver ((featuresOf samples).map (·.horizontal))
      (samples.map (·.target.yaw)) = .error failure) :
    fitWith solver samples = .error failure := by
  rw [fitWith_eq enough, failed]
  rfl

/-- Where the vertical fit fails, the horizontal one may have failed before, but in no other way. -/
theorem fitWith_of_vertical {cause : Degeneracy} (enough : Terms.count ≤ samples.length)
    (failed : fitAxis solver ((featuresOf samples).map (·.vertical))
      (samples.map (·.target.pitch)) = .error (.degenerateGeometry cause)) :
    ∃ cause, fitWith solver samples = .error (.degenerateGeometry cause) := by
  cases before : fitAxis solver ((featuresOf samples).map (·.horizontal))
      (samples.map (·.target.yaw)) with
  | ok weights =>
    refine ⟨cause, ?_⟩
    rw [fitWith_eq enough, before, failed]
    rfl
  | error failure =>
    obtain ⟨earlier, rfl⟩ := fitAxis_eq_error before
    exact ⟨earlier, fitWith_of_horizontal enough before⟩

/-- One face with a degenerate feature is enough for the whole fit to fail. -/
theorem fitWith_of_isDegenerate {s : CalibrationSample α} (enough : Terms.count ≤ samples.length)
    (member : s ∈ samples)
    (degenerate : (GazeFeatures.ofLandmarks (.ofFace s.face)).IsDegenerate) :
    ∃ cause, fitWith solver samples = .error (.degenerateGeometry cause) := by
  obtain ⟨x, entry, nonfinite⟩ := degenerate
  have sampled : GazeFeatures.ofLandmarks (.ofFace s.face) ∈ featuresOf samples :=
    List.mem_map_of_mem member
  obtain horizontal | vertical := List.mem_append.mp entry
  · have failed := fitAxis_of_not_isFinite solver (samples.map (·.target.yaw))
      (List.mem_map_of_mem (f := (·.horizontal)) sampled) horizontal nonfinite
    exact ⟨_, fitWith_of_horizontal enough failed⟩
  · have failed := fitAxis_of_not_isFinite solver (samples.map (·.target.pitch))
      (List.mem_map_of_mem (f := (·.vertical)) sampled) vertical nonfinite
    exact fitWith_of_vertical enough failed

end Calibration

/-! ## Weighing -/

namespace AnalyticGaze

variable {weights : GazeCoefficients} {features : GazeFeatures Float}

/-- A weight of zero does not hide a feature that is no finite number. -/
theorem finite_of_weightedSum {w : Terms Single} {f : Terms Float}
    (finite : Scalar.isFinite (weightedSum w f) = true) :
    ∀ x ∈ f.toList, Scalar.isFinite x = true := by
  have products := Number.finite_of_sum finite
  simp only [Terms.toList, Terms.zipWith, List.forall_mem_cons] at products ⊢
  obtain ⟨bias, rotation, pupil, scale, centre, none⟩ := products
  -- a factor of a finite product is finite, whatever the other factor is
  exact ⟨(Number.finite_of_mul bias).2, (Number.finite_of_mul rotation).2,
    (Number.finite_of_mul pupil).2, (Number.finite_of_mul scale).2,
    (Number.finite_of_mul centre).2, nofun⟩

theorem isFinite_angle (degenerate : features.IsDegenerate) :
    (angle weights features).isFinite = false := by
  obtain ⟨x, entry, nonfinite⟩ := degenerate
  by_contra finite
  simp only [Bool.not_eq_false, GazeAngle.isFinite, Bool.and_eq_true] at finite
  have given : Scalar.isFinite x = true := by
    obtain horizontal | vertical := List.mem_append.mp entry
    · exact finite_of_weightedSum finite.1 x horizontal
    · exact finite_of_weightedSum finite.2 x vertical
  rw [given] at nonfinite
  cases nonfinite

end AnalyticGaze

def GazeFeatures.seen (c : Circular) (g : GazeLandmarks Float) : GazeFeatures Float :=
  @ofLandmarks Float c.scalar g

theorem AnalyticGaze.estimateLandmarks_of_isDegenerate (c : Circular) (weights : GazeCoefficients)
    {g : GazeLandmarks Float} (degenerate : (GazeFeatures.seen c g).IsDegenerate) :
    @estimateLandmarks Float c.scalar weights g =
      .error (.degenerateGeometry .nonFiniteAnalyticAngle) := by
  have nonfinite : @GazeAngle.isFinite Float c.scalar
      (@angle Float c.scalar weights (.seen c g)) = false := isFinite_angle degenerate
  unfold estimateLandmarks
  simp only [GazeFeatures.seen] at nonfinite
  simp only [nonfinite, Bool.false_eq_true, if_false]

/-- A degenerate feature is not hidden by any weights, and a face that has one is refused by the fit as
well, whatever the other samples are. For the arithmetic of the program see `Circular.scalar_runtime`. -/
theorem degenerate_features_are_refused (c : Circular) :
    (∀ (weights : GazeCoefficients) (g : GazeLandmarks Float),
      (GazeFeatures.seen c g).IsDegenerate →
      @AnalyticGaze.estimateLandmarks Float c.scalar weights g =
        .error (.degenerateGeometry .nonFiniteAnalyticAngle)) ∧
    ∀ (solver : LeastSquares Float) (samples : List (CalibrationSample Float)),
      5 ≤ samples.length →
      ∀ s ∈ samples, (GazeFeatures.under c s.face).IsDegenerate →
      (∃ cause, @Calibration.fitWith Float c.scalar solver samples =
        .error (.degenerateGeometry cause)) ∧
      ∀ weights, @AnalyticGaze.estimate Float c.scalar weights s.face =
        .error (.degenerateGeometry .nonFiniteAnalyticAngle) := by
  refine ⟨AnalyticGaze.estimateLandmarks_of_isDegenerate c, ?_⟩
  intro solver samples enough s member degenerate
  constructor
  · exact @Calibration.fitWith_of_isDegenerate Float c.scalar solver samples s enough member degenerate
  · intro weights
    exact AnalyticGaze.estimateLandmarks_of_isDegenerate c weights degenerate

/-- A face whose points are all in one place has a rotation that is no number. Weights of zero do not
hide it, nor do four samples of another face. -/
theorem degenerate_features_are_refused_collapsed :
    let c : Circular := ⟨fun x => x, fun x => x, fun x => x, fun x _ => x⟩
    let eyelid (p : Point3 Float) : Eyelid Float := ⟨p, p, p, p, p, p⟩
    let face (left right : Point3 Float) : Face Float :=
      ⟨⟨0.5, 0.75, 0.0⟩, left, left, right, eyelid left, eyelid right, left, right⟩
    let centre : Point3 Float := ⟨0.5, 0.75, 0.0⟩
    let collapsed := face centre centre
    let upright : CalibrationSample Float := ⟨face ⟨0.625, 0.5, 0.0⟩ ⟨0.375, 0.5, 0.0⟩, ⟨1.0, 2.0⟩⟩
    @AnalyticGaze.estimate Float c.scalar .zero collapsed =
        .error (.degenerateGeometry .nonFiniteAnalyticAngle) ∧
      ∃ cause, @Calibration.fitWith Float c.scalar .orthogonal
          [upright, upright, ⟨collapsed, ⟨0.0, 0.0⟩⟩, upright, upright] =
        .error (.degenerateGeometry cause) := by
  intro c eyelid face centre collapsed upright
  -- zero divided by zero
  have degenerate : (GazeFeatures.under c collapsed).IsDegenerate :=
    ⟨(GazeFeatures.under c collapsed).horizontal.rotation, by simp [GazeFeatures.toList, Terms.toList],
      by decide +kernel⟩
  obtain ⟨refused, weighed⟩ := (degenerate_features_are_refused c).2 .orthogonal
    [upright, upright, ⟨collapsed, ⟨0.0, 0.0⟩⟩, upright, upright] (by simp) ⟨collapsed, ⟨0.0, 0.0⟩⟩
    (by simp) degenerate
  exact ⟨weighed .zero, refused⟩

end DriverMonitor
