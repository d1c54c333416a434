import DriverMonitor.Proofs.Gaze.Refusal
import DriverMonitor.Proofs.Linear.Minimiser

/-! # Calibration inverts weighing

In exact arithmetic, with a solver that makes no errors, calibration gives back the weights that its
targets were made with, provided that the features of the samples vary enough. What counts is which
samples there are: neither their order nor how often one occurs changes the result. If the features do
not vary enough, no targets make up for it.

Fitting and estimating read the same features, in one order and with the same axis for yaw, so the
weights that come back give each sample its own target.
-/

namespace DriverMonitor

open Number (Single Exact ExactFunctions)
open Matrix

variable {c : ExactFunctions}

/-! ## Weights and what is made with them -/

namespace Terms

noncomputable def weighed (w : Terms Single) (x : Terms (Exact c)) : ℝ :=
  w.bias.real * x.bias.real + w.rotation.real * x.rotation.real + w.pupil.real * x.pupil.real +
    w.scale.real * x.scale.real + w.centre.real * x.centre.real

noncomputable def exact (w : Terms Single) : Terms (Exact c) := w.map Scalar.ofSingle

theorem entries_dotProduct (x : Terms (Exact c)) (w : Fin 5 → ℝ) :
    LeastSquares.entries 5 x.toList ⬝ᵥ w =
      x.bias.real * w 0 + x.rotation.real * w 1 + x.pupil.real * w 2 + x.scale.real * w 3 +
        x.centre.real * w 4 := by
  simp [dotProduct, Fin.sum_univ_five, LeastSquares.entries, toList]

theorem entries_dotProduct_exact (w : Terms Single) (x : Terms (Exact c)) :
    LeastSquares.entries count x.toList ⬝ᵥ LeastSquares.entries count (exact (c := c) w).toList =
      w.weighed x := by
  refine (entries_dotProduct x _).trans ?_
  simp [LeastSquares.entries, toList, exact, map, weighed]
  ring

theorem real_weightedSum (w : Terms Single) (x : Terms (Exact c)) :
    (weightedSum w x).real = w.weighed x := by
  rw [weightedSum, Exact.real_sum]
  simp [toList, zipWith, weighed]
  ring

/-- Finite weights survive exact arithmetic, but for the sign of a zero. -/
theorem toSingle_exact {w : Terms Single} (finite : ∀ x ∈ w.toList, x.IsFinite) :
    (exact (c := c) w).map Scalar.toSingle = w.map Single.unsignedZero := by
  simp only [toList, List.forall_mem_cons] at finite
  obtain ⟨bias, rotation, pupil, scale, centre, -⟩ := finite
  simp [exact, map, Single.nearest_real bias, Single.nearest_real rotation,
    Single.nearest_real pupil, Single.nearest_real scale, Single.nearest_real centre]

theorem map_unsignedZero_of_ne {w : Terms Single} (notNegative : ∀ x ∈ w.toList, x ≠ .negativeZero) :
    w.map Single.unsignedZero = w := by
  simp only [toList, List.forall_mem_cons] at notNegative
  obtain ⟨bias, rotation, pupil, scale, centre, -⟩ := notNegative
  simp [map, Single.unsignedZero_of_ne bias, Single.unsignedZero_of_ne rotation,
    Single.unsignedZero_of_ne pupil, Single.unsignedZero_of_ne scale, Single.unsignedZero_of_ne centre]

end Terms

namespace GazeCoefficients

def toList (weights : GazeCoefficients) : List Single :=
  weights.horizontal.toList ++ weights.vertical.toList

/-- The same weights, with every zero taken for positive. -/
def unsignedZeros (weights : GazeCoefficients) : GazeCoefficients :=
  ⟨weights.horizontal.map Single.unsignedZero, weights.vertical.map Single.unsignedZero⟩

theorem unsignedZeros_of_ne {weights : GazeCoefficients}
    (notNegative : ∀ w ∈ weights.toList, w ≠ .negativeZero) : weights.unsignedZeros = weights := by
  simp only [toList, List.forall_mem_append] at notNegative
  simp [unsignedZeros, Terms.map_unsignedZero_of_ne notNegative.1,
    Terms.map_unsignedZero_of_ne notNegative.2]

end GazeCoefficients

def CalibrationSample.IsMadeWith (weights : GazeCoefficients) (s : CalibrationSample (Exact c)) : Prop :=
  s.target.yaw.real = weights.horizontal.weighed (GazeFeatures.ofLandmarks (.ofFace s.face)).horizontal ∧
  s.target.pitch.real = weights.vertical.weighed (GazeFeatures.ofLandmarks (.ofFace s.face)).vertical

namespace Calibration

variable {solver : LeastSquares (Exact c)} {samples others : List (CalibrationSample (Exact c))}
variable {rows : List (Terms (Exact c))} {targets : List (Exact c)}

/-! ## One axis -/

theorem finite_entries : ∀ x ∈ (rows.map Terms.toList).flatten ++ targets, Scalar.isFinite x = true :=
  fun _ _ => rfl

/-- The least sum of squares is zero, and with independent features only the weights themselves reach
it. -/
theorem fitAxis_of_rank (exactSolver : solver.IsExact) {w : Terms Single}
    (finite : ∀ x ∈ w.toList, x.IsFinite)
    (full : (LeastSquares.matrix Terms.count (rows.map Terms.toList)).rank = Terms.count) :
    fitAxis solver rows (rows.map fun x => ⟨w.weighed x⟩) = .ok (w.map Single.unsignedZero) := by
  have independent : Terms.count ≤ solver.rank Terms.count (rows.map Terms.toList) := by
    rw [exactSolver.rank, full]
  have solved : solver.solve Terms.count (rows.map Terms.toList) (rows.map fun x => ⟨w.weighed x⟩) =
      w.exact.toList := by
    apply exactSolver.solve_eq full (Terms.length_toList _)
    intro i
    have inside : i.val < rows.length := by simpa using i.isLt
    simp [Terms.entries_dotProduct_exact, LeastSquares.entries, inside]
  rw [fitAxis_of_solution finite_entries independent solved, Terms.toSingle_exact finite]

/-- Dependent features are refused, whatever the targets are. -/
theorem fitAxis_of_rank_lt (exactSolver : solver.IsExact)
    (short : (LeastSquares.matrix Terms.count (rows.map Terms.toList)).rank < Terms.count) :
    fitAxis solver rows targets = .error (.degenerateGeometry .dependentFeatures) := by
  apply fitAxis_of_dependent finite_entries
  rw [exactSolver.rank]
  exact short

/-! ## Designs -/

noncomputable def termsOf (axis : GazeFeatures (Exact c) → Terms (Exact c))
    (samples : List (CalibrationSample (Exact c))) : List (Terms (Exact c)) :=
  (featuresOf samples).map axis

noncomputable def design (axis : GazeFeatures (Exact c) → Terms (Exact c))
    (samples : List (CalibrationSample (Exact c))) :=
  LeastSquares.matrix Terms.count ((termsOf axis samples).map Terms.toList)

theorem mem_termsOf {axis : GazeFeatures (Exact c) → Terms (Exact c)} {x : Terms (Exact c)} :
    x ∈ termsOf axis samples ↔ ∃ s ∈ samples, axis (.ofLandmarks (.ofFace s.face)) = x := by
  simp [termsOf, featuresOf]

/-- The rank is full or not by which samples there are. -/
theorem rank_design_congr {axis : GazeFeatures (Exact c) → Terms (Exact c)}
    (same : ∀ s, s ∈ others ↔ s ∈ samples) :
    (design axis others).rank = Terms.count ↔ (design axis samples).rank = Terms.count := by
  simp only [design, LeastSquares.rank_matrix_eq_iff, List.forall_mem_map, mem_termsOf, same]

/-- Independent features need as many samples as there are terms. -/
theorem enough_of_rank {axis : GazeFeatures (Exact c) → Terms (Exact c)}
    (full : (design axis samples).rank = Terms.count) : Terms.count ≤ samples.length := by
  have height := (design axis samples).rank_le_height
  rw [full] at height
  simpa [termsOf, featuresOf] using height

theorem targets_eq (axis : GazeFeatures (Exact c) → Terms (Exact c))
    (coordinate : GazeAngle (Exact c) → Exact c) {w : Terms Single}
    (made : ∀ s ∈ samples,
      (coordinate s.target).real = w.weighed (axis (.ofLandmarks (.ofFace s.face)))) :
    samples.map (fun s => coordinate s.target) =
      (termsOf axis samples).map fun x => ⟨w.weighed x⟩ := by
  simp only [termsOf, featuresOf, List.map_map]
  apply List.map_congr_left
  intro s member
  exact Exact.ext (made s member)

/-! ## Both axes -/

/-- Both axes are fitted, each from its own features. -/
theorem fitWith_of_ranks (exactSolver : solver.IsExact) {weights : GazeCoefficients}
    (finite : ∀ w ∈ weights.toList, w.IsFinite)
    (horizontal : (design (·.horizontal) samples).rank = Terms.count)
    (vertical : (design (·.vertical) samples).rank = Terms.count)
    (made : ∀ s ∈ samples, s.IsMadeWith weights) :
    fitWith solver samples = .ok weights.unsignedZeros := by
  simp only [GazeCoefficients.toList, List.forall_mem_append] at finite
  have yaws := targets_eq (·.horizontal) (·.yaw) fun s member => (made s member).1
  have pitches := targets_eq (·.vertical) (·.pitch) fun s member => (made s member).2
  rw [fitWith_eq (enough_of_rank horizontal), yaws, pitches]
  have first := fitAxis_of_rank exactSolver finite.1 horizontal
  have second := fitAxis_of_rank exactSolver finite.2 vertical
  simp only [termsOf] at first second ⊢
  rw [first, second]
  rfl

theorem fitWith_of_rank_lt (exactSolver : solver.IsExact) (enough : Terms.count ≤ samples.length)
    (short : (design (·.horizontal) samples).rank < Terms.count ∨
      (design (·.vertical) samples).rank < Terms.count) :
    ∃ cause, fitWith solver samples = .error (.degenerateGeometry cause) := by
  obtain horizontal | vertical := short
  · exact ⟨_, fitWith_of_horizontal enough (fitAxis_of_rank_lt exactSolver horizontal)⟩
  · exact fitWith_of_vertical enough (fitAxis_of_rank_lt exactSolver vertical)

/-- Targets have no part in the features. -/
theorem rank_design_of_faces {axis : GazeFeatures (Exact c) → Terms (Exact c)}
    (same : others.map (·.face) = samples.map (·.face)) :
    (design axis others).rank = (design axis samples).rank := by
  have ofFaces (list : List (CalibrationSample (Exact c))) :
      featuresOf list = (list.map (·.face)).map fun f => .ofLandmarks (.ofFace f) := by
    simp [featuresOf]
  simp only [design, termsOf]
  rw [ofFaces others, ofFaces samples, same]

/-- One pose is not enough, however often it occurs: its rotation is a multiple of the constant term. -/
theorem rank_design_replicate (copies : ℕ) (s : CalibrationSample (Exact c)) :
    (design (·.horizontal) (List.replicate copies s)).rank < Terms.count := by
  let x := (GazeFeatures.ofLandmarks (.ofFace s.face)).horizontal
  let w : Fin 5 → ℝ := ![x.rotation.real, -1, 0, 0, 0]
  have bias : x.bias.real = 1 := Exact.real_one
  have row : LeastSquares.entries Terms.count x.toList ⬝ᵥ w = 0 := by
    refine (Terms.entries_dotProduct x w).trans ?_
    simp [bias, w]
  apply (Matrix.rank_le_width _).lt_of_ne
  intro full
  have vanishes : w = 0 := by
    apply LeastSquares.rank_matrix_eq_iff.mp full
    simp only [List.forall_mem_map, mem_termsOf, List.mem_replicate]
    rintro _ ⟨_, ⟨-, rfl⟩, rfl⟩
    exact row
  exact neg_ne_zero.mpr one_ne_zero (congrFun vanishes 1)

end Calibration

/-- What a sample was made with is what the model estimates of it. -/
theorem AnalyticGaze.estimate_of_isMadeWith {weights : GazeCoefficients}
    {s : CalibrationSample (Exact c)} (made : s.IsMadeWith weights) :
    estimate weights s.face = .ok s.target := by
  have same : angle weights (.ofLandmarks (.ofFace s.face)) = s.target := by
    obtain ⟨yaw, pitch⟩ := made
    rw [← Terms.real_weightedSum] at yaw pitch
    exact congrArg₂ GazeAngle.mk (Exact.ext yaw.symm) (Exact.ext pitch.symm)
  simp only [estimate, estimateLandmarks, same]
  rfl

/-- With an exact solver, samples that vary enough give back the weights that their targets were made
with, in whatever order they come and however often; zeros come back without their sign. Samples that do
not vary enough are refused, whatever their targets are. -/
theorem calibration_inverts_weighing (c : ExactFunctions) (solver : LeastSquares (Exact c))
    (exactSolver : solver.IsExact) (samples : List (CalibrationSample (Exact c)))
    (enough : 5 ≤ samples.length) :
    (∀ weights : GazeCoefficients, (∀ w ∈ weights.toList, w.IsFinite) →
      (Calibration.design (·.horizontal) samples).rank = 5 →
      (Calibration.design (·.vertical) samples).rank = 5 →
      (∀ s ∈ samples, s.IsMadeWith weights) →
      ∀ others, (∀ s, s ∈ others ↔ s ∈ samples) →
        Calibration.fitWith solver others = .ok weights.unsignedZeros ∧
        ((∀ w ∈ weights.toList, w ≠ .negativeZero) →
          Calibration.fitWith solver others = .ok weights) ∧
        ∀ s ∈ others, AnalyticGaze.estimate weights s.face = .ok s.target) ∧
    ((Calibration.design (·.horizontal) samples).rank < 5 ∨
        (Calibration.design (·.vertical) samples).rank < 5 →
      ∀ others, others.map (·.face) = samples.map (·.face) →
        ∃ cause, Calibration.fitWith solver others = .error (.degenerateGeometry cause)) := by
  constructor
  · intro weights finite horizontal vertical made others same
    have othersMade : ∀ s ∈ others, s.IsMadeWith weights := fun s member =>
      made s ((same s).mp member)
    -- the rank depends on which samples there are, not on their order or number
    have fitted := Calibration.fitWith_of_ranks exactSolver finite
      ((Calibration.rank_design_congr same).mpr horizontal)
      ((Calibration.rank_design_congr same).mpr vertical) othersMade
    refine ⟨fitted, ?_, ?_⟩
    · intro notNegative
      rw [fitted, GazeCoefficients.unsignedZeros_of_ne notNegative]
    · intro s member
      exact AnalyticGaze.estimate_of_isMadeWith (othersMade s member)
  · intro short others same
    have sameLength : others.length = samples.length := by
      simpa using congrArg List.length same
    -- the targets do not enter the rank
    apply Calibration.fitWith_of_rank_lt exactSolver (sameLength ▸ enough)
    rw [Calibration.rank_design_of_faces same, Calibration.rank_design_of_faces same]
    exact short

/-! ## Five poses of a face

Five faces whose features are independent. One, one in another place and one that looks aside differ in
one feature each; those that are turned to either side look larger than the first, and have opposite
rotations.
-/

/-- A face with its eyes' midpoint at `place`, from which the medial corners and the nose are `width`
away, with pupils `offset` away from the corners, and turned by `turn`. -/
def Face.posed (place offset width turn : ℝ) : Face (Exact c) :=
  let point (x y z : ℝ) : Point3 (Exact c) := ⟨⟨x⟩, ⟨y⟩, ⟨z⟩⟩
  let nose := point place (place + width) turn
  let eyelid (medial : Point3 (Exact c)) : Eyelid (Exact c) := ⟨medial, nose, nose, nose, nose, nose⟩
  { noseTip := nose, chin := nose, mouthLeft := nose, mouthRight := nose
    eyelidLeft := eyelid (point (place + width) place turn)
    eyelidRight := eyelid (point (place - width) place (-turn))
    pupilLeft := point (place + width - offset) (place - offset) 0
    pupilRight := point (place - width - offset) (place - offset) 0 }

/-- The terms of an axis along which a posed face is `size` times as large as a half of it. -/
noncomputable def Terms.posed (size place offset width turn : ℝ) : Terms (Exact c) :=
  ⟨⟨1⟩, ⟨c.atan (turn / width)⟩, ⟨offset / (size * √(width ^ 2 + turn ^ 2))⟩,
    ⟨size * √(width ^ 2 + turn ^ 2)⟩, ⟨place⟩⟩

section Posed

variable {place offset width turn : ℝ}

def GazeLandmarks.posed (place offset width turn : ℝ) : GazeLandmarks (Exact c) :=
  let point (x y z : ℝ) : Point3 (Exact c) := ⟨⟨x⟩, ⟨y⟩, ⟨z⟩⟩
  { eyesMidpoint := point place place 0
    noseBase := point place (place + width) turn
    medialLeft := point (place + width) place turn
    medialRight := point (place - width) place (-turn)
    limbusLeft := .replicate (point (place + width - offset) (place - offset) 0)
    limbusRight := .replicate (point (place - width - offset) (place - offset) 0) }

theorem GazeLandmarks.ofFace_posed :
    ofFace (Face.posed (c := c) place offset width turn) = posed place offset width turn := by
  simp [ofFace, posed, Face.posed, Face.medialCorner, Face.eyelid, Point3.midpoint, Point3.add_def,
    Point3.div_def, Exact.ext_iff, Exact.real_div_eq]
  norm_num

theorem GazeLandmarks.faceScale_posed :
    (posed (c := c) place offset width turn).faceScale =
      ⟨⟨√(width ^ 2 + turn ^ 2)⟩, ⟨2 * √(width ^ 2 + turn ^ 2)⟩⟩ := by
  -- the medial corners lie on both sides of their midpoint
  have double : √((width + width) ^ 2 + (turn + turn) ^ 2) = 2 * √(width ^ 2 + turn ^ 2) := by
    rw [Real.sqrt_eq_iff_mul_self_eq (by positivity) (by positivity), mul_mul_mul_comm,
      Real.mul_self_sqrt (by positivity)]
    ring
  simp [faceScale, posed, Point3.distance, Point3.norm, Point3.sub_def, Exact.ext_iff, double]

theorem GazeLandmarks.headRotation_posed (positive : 0 < width) :
    (posed (c := c) place offset width turn).headRotation =
      ⟨⟨c.atan (turn / width)⟩, ⟨c.atan (turn / width)⟩⟩ := by
  have nonzero : width + width ≠ 0 := by positivity
  have double : (turn + turn) / (width + width) = turn / width := by field_simp
  simp [headRotation, posed, Exact.ext_iff, Exact.real_div_eq, positive.ne', nonzero, double]

theorem GazeLandmarks.pupilOffset_posed (positive : 0 < width) :
    (posed (c := c) place offset width turn).pupilOffset =
      ⟨⟨offset / √(width ^ 2 + turn ^ 2)⟩, ⟨offset / (2 * √(width ^ 2 + turn ^ 2))⟩⟩ := by
  have size : √(width ^ 2 + turn ^ 2) ≠ 0 := by positivity
  rw [pupilOffset, faceScale_posed]
  simp only [irisOffset, Limbus.centre, Limbus.replicate, Limbus.points, Point2.midpoint, Point2.zero,
    Point3.xy, List.map_cons, List.map_nil, List.foldl_cons, List.foldl_nil, Point2.add_def,
    Point2.sub_def, Point2.div_def, posed, Point2.mk.injEq, Exact.ext_iff]
  simp [Exact.real_div_eq, size]
  norm_num
  constructor
  · field_simp
    ring
  · field_simp
    ring

/-- The features of a posed face in closed form. -/
theorem GazeFeatures.ofLandmarks_posed (positive : 0 < width) :
    ofLandmarks (.ofFace (Face.posed (c := c) place offset width turn)) =
      ⟨.posed 1 place offset width turn, .posed 2 place offset width turn⟩ := by
  have one : (1.0 : Exact c) = ⟨1⟩ := Exact.ext Exact.real_one
  rw [GazeLandmarks.ofFace_posed, ofLandmarks, GazeLandmarks.headRotation_posed positive,
    GazeLandmarks.pupilOffset_posed positive, GazeLandmarks.faceScale_posed, one]
  simp [Terms.posed, GazeLandmarks.posed]

end Posed

/-- A face, one in another place, one that looks aside and two that are turned to either side. -/
noncomputable def Face.poses : List (Face (Exact .analytic)) :=
  [.posed 0 0 1 0, .posed 1 0 1 0, .posed 0 1 1 0, .posed 0 0 1 1, .posed 0 0 1 (-1)]

/-- Samples of the five poses have independent features. -/
theorem Calibration.rank_design_of_poses
    {axis : GazeFeatures (Exact .analytic) → Terms (Exact .analytic)}
    {samples : List (CalibrationSample (Exact .analytic))} {size : ℝ} (positive : 0 < size)
    (posed : ∀ place offset width turn, 0 < width →
      axis (.ofLandmarks (.ofFace (.posed place offset width turn))) =
        .posed size place offset width turn)
    (present : ∀ f ∈ Face.poses, ∃ s ∈ samples, s.face = f) :
    (design axis samples).rank = Terms.count := by
  rw [design, LeastSquares.rank_matrix_eq_iff]
  simp only [List.forall_mem_map]
  intro (w : Fin 5 → ℝ) vanishes
  have row (place offset width turn : ℝ) (pose : .posed place offset width turn ∈ Face.poses)
      (wide : 0 < width) :
      w 0 + Real.arctan (turn / width) * w 1 + offset / (size * √(width ^ 2 + turn ^ 2)) * w 2 +
        size * √(width ^ 2 + turn ^ 2) * w 3 + place * w 4 = 0 := by
    obtain ⟨s, member, face⟩ := present _ pose
    have term : axis (.ofLandmarks (.ofFace s.face)) ∈ termsOf axis samples :=
      mem_termsOf.mpr ⟨s, member, rfl⟩
    rw [face, posed place offset width turn wide] at term
    have zero := (Terms.entries_dotProduct _ w).symm.trans (vanishes _ term)
    simpa [Terms.posed, ExactFunctions.analytic] using zero
  have base := row 0 0 1 0 (by simp [Face.poses]) one_pos
  have moved := row 1 0 1 0 (by simp [Face.poses]) one_pos
  have looking := row 0 1 1 0 (by simp [Face.poses]) one_pos
  have left := row 0 0 1 1 (by simp [Face.poses]) one_pos
  have right := row 0 0 1 (-1) (by simp [Face.poses]) one_pos
  norm_num [Real.arctan_one, Real.arctan_neg] at base moved looking left right
  -- the rotations of the turned faces cancel, and what is left is that they look larger than the first
  have larger : (√2 - 1) * (size * w 3) = 0 := by linarith
  have scale : w 3 = 0 := by simpa [sub_eq_zero, positive.ne'] using larger
  have bias : w 0 = 0 := by simpa [scale] using base
  have centre : w 4 = 0 := by simpa [scale, bias] using moved
  have pupil : w 2 = 0 := by simpa [scale, bias, positive.ne'] using looking
  have rotation : w 1 = 0 := by simpa [scale, bias, Real.pi_ne_zero] using left
  funext i
  fin_cases i
  exacts [bias, rotation, pupil, scale, centre]

noncomputable def CalibrationSample.madeWith (weights : GazeCoefficients) (f : Face (Exact c)) :
    CalibrationSample (Exact c) :=
  ⟨f, AnalyticGaze.angle weights (.ofLandmarks (.ofFace f))⟩

theorem CalibrationSample.isMadeWith_madeWith (weights : GazeCoefficients) (f : Face (Exact c)) :
    (madeWith weights f).IsMadeWith weights :=
  ⟨Terms.real_weightedSum _ _, Terms.real_weightedSum _ _⟩

/-- Of the five poses, each twice and in some order, the weights come back. One pose is too little,
however often it occurs. -/
theorem calibration_inverts_weighing_five_poses :
    let weights : GazeCoefficients :=
      ⟨⟨⟨0x40000000⟩, ⟨0x41f00000⟩, ⟨0xc2480000⟩, ⟨0x41200000⟩, ⟨0xc0800000⟩⟩,
        ⟨⟨0xbf800000⟩, ⟨0x40a00000⟩, ⟨0x41a00000⟩, ⟨0xc1000000⟩, ⟨0x40400000⟩⟩⟩
    let samples := Face.poses.map (.madeWith weights)
    let still : CalibrationSample (Exact .analytic) := ⟨.posed 0 0 1 0, ⟨⟨10⟩, ⟨-5⟩⟩⟩
    Calibration.fitWith .normal (samples.reverse ++ samples) = .ok weights ∧
      ∃ cause, Calibration.fitWith .normal (List.replicate 6 still) =
        .error (.degenerateGeometry cause) := by
  intro weights samples still
  have finite : ∀ w ∈ weights.toList, w.IsFinite := by
    have inside : ∀ w ∈ weights.toList, w.place < 0x7f800000 := by decide
    exact fun w member => Single.isFinite_of_place (inside w member)
  have present : ∀ f ∈ Face.poses, ∃ s ∈ samples, s.face = f := by
    intro f pose
    exact ⟨.madeWith weights f, List.mem_map_of_mem pose, rfl⟩
  constructor
  · have regained := (calibration_inverts_weighing .analytic .normal LeastSquares.normal_isExact samples
      (by simp [samples, Face.poses])).1 weights finite
      (Calibration.rank_design_of_poses one_pos
        (fun _ _ _ _ wide => by rw [GazeFeatures.ofLandmarks_posed wide]) present)
      (Calibration.rank_design_of_poses two_pos
        (fun _ _ _ _ wide => by rw [GazeFeatures.ofLandmarks_posed wide]) present)
      (by simp [samples, CalibrationSample.isMadeWith_madeWith]) (samples.reverse ++ samples) (by simp)
    exact regained.2.1 (by simp [weights, GazeCoefficients.toList, Terms.toList, Single.negativeZero])
  · exact (calibration_inverts_weighing .analytic .normal LeastSquares.normal_isExact
      (List.replicate 6 still) (by simp)).2 (.inl (Calibration.rank_design_replicate 6 still)) _ rfl

end DriverMonitor
