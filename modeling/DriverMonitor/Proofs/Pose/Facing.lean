import DriverMonitor.Proofs.Gaze.Fit
import Mathlib.LinearAlgebra.UnitaryGroup

/-! # The side that faces the camera

When the map of the whole face is rejected, the sign of the head's yaw decides from which side the gaze
is read. In exact arithmetic this is the side that is nearer to the camera.

Landmarks of the two sides differ in x only, so which of them is nearer depends on one entry of the
rotation, the last one of the first column. The yaw has the opposite sign. It is the angle of a point
whose abscissa is the length of the rest of that column, thus never negative, and since the column of a
rotation has length one, the point is not the origin.

`fallback_reads_nearer_side` writes out which landmarks a side consists of and where they are in the model,
so that it says the same of no other tables.
-/

namespace DriverMonitor

open Number (Exact ExactFunctions)

variable {c : ExactFunctions}

/-! ## Rotations -/

namespace Matrix3

def toMatrix (m : Matrix3 (Exact c)) : Matrix (Fin 3) (Fin 3) ℝ :=
  !![m.first.x.real, m.first.y.real, m.first.z.real;
    m.second.x.real, m.second.y.real, m.second.z.real;
    m.third.x.real, m.third.y.real, m.third.z.real]

def IsRotation (m : Matrix3 (Exact c)) : Prop :=
  m.toMatrix ∈ Matrix.specialOrthogonalGroup (Fin 3) ℝ

variable {m : Matrix3 (Exact c)}

/-- The first column of a rotation has length one. -/
theorem IsRotation.first_column (rotation : m.IsRotation) :
    m.first.x.real ^ 2 + m.second.x.real ^ 2 + m.third.x.real ^ 2 = 1 := by
  have orthogonal := (Matrix.mem_orthogonalGroup_iff' (Fin 3) ℝ).mp
    (Matrix.mem_specialOrthogonalGroup_iff.mp rotation).1
  have corner := congrFun (congrFun orthogonal 0) 0
  simpa [toMatrix, Matrix.mul_apply, Fin.sum_univ_three, ← pow_two] using corner

theorem isRotation_identity : (identity : Matrix3 (Exact c)).IsRotation := by
  have one : (identity : Matrix3 (Exact c)).toMatrix = 1 := by
    ext i j
    fin_cases i <;> fin_cases j <;> simp [identity, toMatrix] <;> norm_num
  rw [IsRotation, one]
  exact one_mem _

theorem isRotation_ofAxisAngle {axis : Point3 (Exact c)} {angle : Exact c}
    (unit : axis.x.real ^ 2 + axis.y.real ^ 2 + axis.z.real ^ 2 = 1)
    (circle : c.sin angle.real ^ 2 + c.cos angle.real ^ 2 = 1) :
    (ofAxisAngle axis angle).IsRotation := by
  obtain ⟨⟨x⟩, ⟨y⟩, ⟨z⟩⟩ := axis
  simp only at unit
  rw [IsRotation, Matrix.mem_specialOrthogonalGroup_iff, Matrix.mem_orthogonalGroup_iff']
  -- all that is needed of the angle is that its sine and cosine lie on the circle
  generalize sinEq : c.sin angle.real = s at circle
  generalize cosEq : c.cos angle.real = d at circle
  constructor
  · ext i j
    fin_cases i <;> fin_cases j <;>
      simp [ofAxisAngle, toMatrix, Matrix.mul_apply, Fin.sum_univ_three, sinEq, cosEq] <;>
      norm_num <;> grind
  · simp [ofAxisAngle, toMatrix, Matrix.det_fin_three, sinEq, cosEq]
    norm_num
    grind

/-- Every rotation vector gives a rotation. -/
theorem isRotation_ofRotationVector (circular : c.IsCircular) (v : Point3 (Exact c)) :
    (ofRotationVector v).IsRotation := by
  rw [ofRotationVector]
  split
  · exact isRotation_identity
  next turned =>
    have length : v.norm.real = √(v.x.real ^ 2 + v.y.real ^ 2 + v.z.real ^ 2) := by
      simp [Point3.norm]
    have nonzero : v.norm.real ≠ 0 := by
      intro zero
      apply turned
      rw [Bool.and_eq_true, Exact.le_iff, Exact.le_iff, zero]
      norm_num
    have square : v.norm.real ^ 2 = v.x.real ^ 2 + v.y.real ^ 2 + v.z.real ^ 2 := by
      rw [length, Real.sq_sqrt (by positivity)]
    apply isRotation_ofAxisAngle _ (circular _)
    simp only [Point3.div_def, Exact.real_div nonzero, div_pow, ← add_div, ← square]
    exact div_self (pow_ne_zero 2 nonzero)

end Matrix3

/-! ## Yaw -/

/-- The yaw is read in the same way whether or not the roll is observable. -/
theorem EulerAngles.yaw_ofMatrix {α : Type} [Scalar α] (m : Matrix3 α) : (ofMatrix m).yaw =
    Scalar.toDegrees (Scalar.atan2 (-m.third.x)
      (Scalar.sqrt (Scalar.square m.first.x + Scalar.square m.second.x))) := by
  simp only [ofMatrix]
  split <;> rfl

/-- The yaw of a rotation is positive exactly if the last entry of the first column is negative. -/
theorem EulerAngles.yaw_pos_iff (signs : c.SignToTheRight) {m : Matrix3 (Exact c)}
    (rotation : m.IsRotation) : 0 < (ofMatrix m).yaw.real ↔ m.third.x.real < 0 := by
  have column := rotation.first_column
  let level := √(m.first.x.real ^ 2 + m.second.x.real ^ 2)
  -- the column would be zero otherwise
  have notOrigin : -m.third.x.real ≠ 0 ∨ level ≠ 0 := by
    by_cases flat : m.third.x.real = 0
    · rw [flat] at column
      have one : m.first.x.real ^ 2 + m.second.x.real ^ 2 = 1 := by linarith
      simp [level, one]
    · exact .inl (neg_ne_zero.mpr flat)
  have sign : SignType.sign (ofMatrix m).yaw.real = SignType.sign (-m.third.x.real) := by
    rw [yaw_ofMatrix, Exact.sign_toDegrees]
    simpa using signs _ _ (Real.sqrt_nonneg _) notOrigin
  rw [← sign_eq_one_iff, sign, sign_eq_one_iff, neg_pos]

/-! ## Depths -/

namespace FaceModel

variable {m : Matrix3 (Exact c)} {t : Point3 (Exact c)}

/-- Of two points at one height and depth of the model, the one further to the left is nearer to the
camera if the last entry of the first column is negative. -/
theorem depth_lt_iff {p q : Point3 (Exact c)} (aside : q.x.real < p.x.real) (y : p.y = q.y)
    (z : p.z = q.z) : (m.apply p + t).z.real < (m.apply q + t).z.real ↔ m.third.x.real < 0 := by
  have difference : (m.apply p + t).z.real - (m.apply q + t).z.real =
      m.third.x.real * (p.x.real - q.x.real) := by
    simp only [Matrix3.apply, Point3.dot, Point3.add_def, Exact.real_add, Exact.real_mul, y, z]
    ring
  rw [← sub_neg, difference, mul_neg_iff]
  constructor
  · rintro (⟨-, less⟩ | ⟨negative, -⟩)
    · linarith
    · exact negative
  · intro negative
    exact .inr ⟨negative, sub_pos.mpr aside⟩

def Nearer (m : Matrix3 (Exact c)) (t p q : Point3 (Exact c)) : Prop :=
  (m.apply p + t).z.real < (m.apply q + t).z.real

/-- The corner of the left eye and the corner of the mouth below it are both nearer than those on the
right exactly if the last entry of the first column is negative. -/
theorem leftNearer_iff :
    Nearer m t ⟨43.3, 32.7, -26.0⟩ ⟨-43.3, 32.7, -26.0⟩ ∧
      Nearer m t ⟨28.9, -28.9, -24.1⟩ ⟨-28.9, -28.9, -24.1⟩ ↔ m.third.x.real < 0 := by
  have eyes : Nearer m t ⟨43.3, 32.7, -26.0⟩ ⟨-43.3, 32.7, -26.0⟩ ↔ m.third.x.real < 0 :=
    depth_lt_iff (by norm_num) rfl rfl
  have mouth : Nearer m t ⟨28.9, -28.9, -24.1⟩ ⟨-28.9, -28.9, -24.1⟩ ↔ m.third.x.real < 0 :=
    depth_lt_iff (by norm_num) rfl rfl
  rw [eyes, mouth, and_self_iff]

end FaceModel

/-! ## The fallback -/

namespace PoseGaze

/-- The ray that is read with some of the landmarks, each given with its place in the model, one pupil and
the centre of one eyeball. The map that takes the pixels of these landmarks to their places puts the pupil
into the model, and the target lies on the line from there through the centre. -/
def rayFrom {α : Type} [Scalar α] (solver : LeastSquares α) (g : PoseGaze α)
    (shown : List (Point3 α × Point3 α)) (pupil centre : Point3 α) : Except Failure (GazeRay α) :=
  match PlaneMap.fit? solver (shown.map fun s => g.toPixel s.1) (shown.map fun s => s.2) with
  | some fit =>
    let pixel := g.toPixel pupil
    let place := fit.transform.apply ⟨pixel.x, pixel.y, 1.0⟩
    .ok { pupil := place, target := centre + (place - centre) * g.extension }
  | none => .error (.degenerateGeometry .collinearLandmarks)

theorem rayFrom_of_fit {α : Type} [Scalar α] {solver : LeastSquares α} {g : PoseGaze α}
    {shown : List (Point3 α × Point3 α)} {pupil centre : Point3 α} {fit : PlaneMap α}
    (fitted : PlaneMap.fit? solver (shown.map fun s => g.toPixel s.1) (shown.map fun s => s.2) =
      some fit) :
    g.rayFrom solver shown pupil centre = .ok (.ofEye g.extension (fit.map (g.toPixel pupil)) centre) := by
  rw [rayFrom, fitted]
  rfl

/-- Both sides, with their landmarks, places, pupils and eyeballs written out. -/
theorem ray_of_rejected {α : Type} [Scalar α] {solver : LeastSquares α} {g : PoseGaze α} {f : Face α}
    (rejected : g.fullFit? solver f = none) (head : EulerAngles α) :
    g.ray solver f head =
      match facingSide head with
      | .left => g.rayFrom solver
          [(f.noseTip, ⟨0.0, 0.0, 0.0⟩), (f.chin, ⟨0.0, -63.6, -12.5⟩),
            (f.eyelidLeft.lateralCorner, ⟨43.3, 32.7, -26.0⟩), (f.mouthLeft, ⟨28.9, -28.9, -24.1⟩)]
          f.pupilLeft ⟨29.05, 32.7, -39.5⟩
      | .right => g.rayFrom solver
          [(f.noseTip, ⟨0.0, 0.0, 0.0⟩), (f.chin, ⟨0.0, -63.6, -12.5⟩),
            (f.eyelidRight.lateralCorner, ⟨-43.3, 32.7, -26.0⟩), (f.mouthRight, ⟨-28.9, -28.9, -24.1⟩)]
          f.pupilRight ⟨-29.05, 32.7, -39.5⟩ := by
  rw [ray, rejected]
  cases facingSide head <;> rfl

/-- The map of the whole face is rejected if there is none or if its residual is too large. -/
theorem fullFit?_eq_none_iff {solver : LeastSquares (Exact c)} {g : PoseGaze (Exact c)}
    {f : Face (Exact c)} : g.fullFit? solver f = none ↔
      ∀ fit, PlaneMap.fit? solver (g.image f).toList FaceModel.points.toList = some fit →
        g.maxResidual.real < fit.residual.real := by
  simp only [fullFit?, Option.filter_eq_none_iff, Exact.le_iff, not_le]

/-- In exact arithmetic every angle is a number, so none is refused. -/
theorem estimateWith_of_headPose {solver : LeastSquares (Exact c)} {g : PoseGaze (Exact c)}
    {f : Face (Exact c)} {pose : HeadPose (Exact c)} (found : g.headPose f = .ok pose) :
    g.estimateWith solver f = (g.ray solver f pose.euler).map fun r => (r.angle, pose.euler) := by
  have turned : g.head f = .ok pose.euler := by
    rw [head, found]
    rfl
  simp only [estimateWith, turned, bind, Except.bind]
  cases g.ray solver f pose.euler <;> rfl

theorem facingSide_ofMatrix (signs : c.SignToTheRight) {m : Matrix3 (Exact c)} (rotation : m.IsRotation) :
    facingSide (.ofMatrix m) = .left ↔ m.third.x.real < 0 := by
  have zero : (0.0 : Exact c).real = 0 := by norm_num
  rw [← EulerAngles.yaw_pos_iff signs rotation, facingSide]
  simp [zero]

end PoseGaze

/-- Where no map of all six landmarks is good enough, the gaze is read from the left side of the face
exactly if the left corner of the eye and that of the mouth are both strictly nearer to the camera than
their right counterparts, under whichever rotation and translation, and else from the right side. A side
is the nose, the chin and these two landmarks of it, with its pupil and the centre of its eyeball. -/
theorem fallback_reads_nearer_side (c : ExactFunctions) (signs : c.SignToTheRight)
    (solver : LeastSquares (Exact c)) (g : PoseGaze (Exact c)) (f : Face (Exact c)) :
    let nose : Point3 (Exact c) := ⟨0.0, 0.0, 0.0⟩
    let chin : Point3 (Exact c) := ⟨0.0, -63.6, -12.5⟩
    let eyeLeft : Point3 (Exact c) := ⟨43.3, 32.7, -26.0⟩
    let eyeRight : Point3 (Exact c) := ⟨-43.3, 32.7, -26.0⟩
    let mouthLeft : Point3 (Exact c) := ⟨28.9, -28.9, -24.1⟩
    let mouthRight : Point3 (Exact c) := ⟨-28.9, -28.9, -24.1⟩
    let left := g.rayFrom solver
      [(f.noseTip, nose), (f.chin, chin), (f.eyelidLeft.lateralCorner, eyeLeft), (f.mouthLeft, mouthLeft)]
      f.pupilLeft ⟨29.05, 32.7, -39.5⟩
    let right := g.rayFrom solver
      [(f.noseTip, nose), (f.chin, chin), (f.eyelidRight.lateralCorner, eyeRight),
        (f.mouthRight, mouthRight)]
      f.pupilRight ⟨-29.05, 32.7, -39.5⟩
    let leftNearer (m : Matrix3 (Exact c)) (t : Point3 (Exact c)) : Prop :=
      FaceModel.Nearer m t eyeLeft eyeRight ∧ FaceModel.Nearer m t mouthLeft mouthRight
    (∀ fit, PlaneMap.fit? solver
        ([f.noseTip, f.chin, f.eyelidLeft.lateralCorner, f.eyelidRight.lateralCorner, f.mouthLeft,
          f.mouthRight].map g.toPixel)
        [nose, chin, eyeLeft, eyeRight, mouthLeft, mouthRight] = some fit →
      g.maxResidual.real < fit.residual.real) →
    (∀ (m : Matrix3 (Exact c)) (t : Point3 (Exact c)), m.IsRotation →
      (PoseGaze.facingSide (.ofMatrix m) = .left ↔ leftNearer m t) ∧
      (leftNearer m t → g.ray solver f (.ofMatrix m) = left) ∧
      (¬ leftNearer m t → g.ray solver f (.ofMatrix m) = right)) ∧
    (c.IsCircular → ∀ pose, g.headPose f = .ok pose →
      let facing := leftNearer pose.rotationMatrix pose.placement.translation
      (facing → g.estimateWith solver f = left.map fun r => (r.angle, pose.euler)) ∧
      (¬ facing → g.estimateWith solver f = right.map fun r => (r.angle, pose.euler))) := by
  intro nose chin eyeLeft eyeRight mouthLeft mouthRight left right leftNearer noFit
  have rejected : g.fullFit? solver f = none := PoseGaze.fullFit?_eq_none_iff.mpr noFit
  have side {m : Matrix3 (Exact c)} (t : Point3 (Exact c)) (rotation : m.IsRotation) :
      PoseGaze.facingSide (.ofMatrix m) = .left ↔ leftNearer m t :=
    (PoseGaze.facingSide_ofMatrix signs rotation).trans FaceModel.leftNearer_iff.symm
  have nearer {m : Matrix3 (Exact c)} {t : Point3 (Exact c)} (rotation : m.IsRotation)
      (facing : leftNearer m t) : g.ray solver f (.ofMatrix m) = left := by
    rw [PoseGaze.ray_of_rejected rejected, (side t rotation).mpr facing]
  have farther {m : Matrix3 (Exact c)} {t : Point3 (Exact c)} (rotation : m.IsRotation)
      (facing : ¬ leftNearer m t) : g.ray solver f (.ofMatrix m) = right := by
    rw [PoseGaze.ray_of_rejected rejected]
    cases which : PoseGaze.facingSide (.ofMatrix m) with
    | left => exact absurd ((side t rotation).mp which) facing
    | right => rfl
  refine ⟨fun m t rotation => ⟨side t rotation, nearer rotation, farther rotation⟩, ?_⟩
  intro circular pose found
  have rotation : pose.rotationMatrix.IsRotation :=
    Matrix3.isRotation_ofRotationVector circular pose.placement.rotation
  rw [PoseGaze.estimateWith_of_headPose found, HeadPose.euler]
  refine ⟨fun facing => ?_, fun facing => ?_⟩
  · rw [nearer rotation facing]
  · rw [farther rotation facing]

/-! ## A face with a hidden eye -/

/-- A map takes one pixel to one place. If the right eye is seen at the tip of the nose, which is far from
it in the model, then no map fits. -/
theorem PoseGaze.fullFit?_of_hidden_eye {solver : LeastSquares (Exact c)} {g : PoseGaze (Exact c)}
    {f : Face (Exact c)} (hidden : (g.image f).lateralRight = (g.image f).noseTip)
    (strict : g.maxResidual.real ≤ 15) : g.fullFit? solver f = none := by
  rw [fullFit?_eq_none_iff]
  intro fit fitted
  obtain ⟨-, -, -, residual⟩ := PlaneMap.fit?_eq_some fitted
  let image := g.image f
  let model : FaceModel.Points (Point3 (Exact c)) := FaceModel.points
  -- the nose and the eye are closest to being met if their pixel is mapped to their midpoint
  have far : 1350 < (fit.planarError image.noseTip model.noseTip).real +
      (fit.planarError image.lateralRight model.lateralRight).real := by
    rw [PlaneMap.real_planarError, PlaneMap.real_planarError, show image.lateralRight = _ from hidden]
    generalize (fit.map (g.image f).noseTip).x.real = x
    generalize (fit.map (g.image f).noseTip).y.real = y
    norm_num [model, FaceModel.points]
    linarith [sq_nonneg (2 * x + 433 / 10), sq_nonneg (2 * y - 327 / 10)]
  have total : (Scalar.sum (List.zipWith fit.planarError image.toList model.toList)).real =
      (fit.planarError image.noseTip model.noseTip).real +
        (fit.planarError image.chin model.chin).real +
        (fit.planarError image.lateralLeft model.lateralLeft).real +
        (fit.planarError image.lateralRight model.lateralRight).real +
        (fit.planarError image.mouthLeft model.mouthLeft).real +
        (fit.planarError image.mouthRight model.mouthRight).real := by
    simp only [Exact.real_sum, FaceModel.Points.toList, List.zipWith_cons_cons, List.zipWith_nil_left,
      List.map_cons, List.map_nil, List.sum_cons, List.sum_nil]
    ring
  have length : (Scalar.ofNat (g.image f).toList.length : Exact c).real = 6 := by
    simp [FaceModel.Points.toList]
  have apart : 15 < fit.residual.real := by
    rw [residual, Exact.real_sqrt, Exact.real_div (by rw [length]; norm_num), length,
      Real.lt_sqrt (by norm_num), total]
    have chin := fit.planarError_nonneg image.chin model.chin
    have lateralLeft := fit.planarError_nonneg image.lateralLeft model.lateralLeft
    have mouthLeft := fit.planarError_nonneg image.mouthLeft model.mouthLeft
    have mouthRight := fit.planarError_nonneg image.mouthRight model.mouthRight
    linarith
  linarith

/-- The model with the right eye at the tip of the nose. Turned by a right angle, where the roll is not
observable, its left side is nearer and is read; upside down, both sides are equally near and the right
one is read. -/
theorem fallback_reads_nearer_side_hidden_eye :
    let g : PoseGaze (Exact .analytic) := .unit
    let hidden : FaceModel.Points (Point3 (Exact .analytic)) :=
      { FaceModel.points with lateralRight := FaceModel.points.noseTip }
    let f : Face (Exact .analytic) := .showing hidden FaceModel.eyeball
    let turned : Matrix3 (Exact .analytic) := .ofAxisAngle ⟨⟨0⟩, ⟨1⟩, ⟨0⟩⟩ ⟨Real.pi / 2⟩
    let flipped : Matrix3 (Exact .analytic) := .ofAxisAngle ⟨⟨1⟩, ⟨0⟩, ⟨0⟩⟩ ⟨Real.pi⟩
    ∃ left right,
      PlaneMap.fit? .normal ([f.noseTip, f.chin, f.eyelidLeft.lateralCorner, f.mouthLeft].map g.toPixel)
        [⟨0.0, 0.0, 0.0⟩, ⟨0.0, -63.6, -12.5⟩, ⟨43.3, 32.7, -26.0⟩, ⟨28.9, -28.9, -24.1⟩] = some left ∧
      PlaneMap.fit? .normal ([f.noseTip, f.chin, f.eyelidRight.lateralCorner, f.mouthRight].map g.toPixel)
        [⟨0.0, 0.0, 0.0⟩, ⟨0.0, -63.6, -12.5⟩, ⟨-43.3, 32.7, -26.0⟩, ⟨-28.9, -28.9, -24.1⟩] = some right ∧
      g.ray .normal f (.ofMatrix turned) =
        .ok (.ofEye g.extension (left.map (g.toPixel f.pupilLeft)) ⟨29.05, 32.7, -39.5⟩) ∧
      g.ray .normal f (.ofMatrix flipped) =
        .ok (.ofEye g.extension (right.map (g.toPixel f.pupilRight)) ⟨-29.05, 32.7, -39.5⟩) := by
  intro g hidden f turned flipped
  have rejected : g.fullFit? .normal f = none := by
    apply PoseGaze.fullFit?_of_hidden_eye rfl
    norm_num [g, PoseGaze.unit]
  have pixels : g.image f = hidden.map Point3.xy := by
    rw [PoseGaze.image_showing, funext PoseGaze.unit_toPixel]
  -- on both sides the nose, the chin and the corner of the mouth are not on one line
  have fits (side : Side) (places : List (Point3 (Exact .analytic))) :
      ∃ fit, PlaneMap.fit? .normal ((g.image f).side side) places = some fit := by
    apply PlaneMap.exists_fit LeastSquares.normal_isExact
    rw [pixels]
    cases side
    all_goals
      apply PlaneMap.rank_of_triangle (.head _) (.tail _ (.head _)) (.tail _ (.tail _ (.tail _ (.head _))))
      norm_num [hidden, FaceModel.points, FaceModel.Points.map, Point3.xy]
  obtain ⟨left, leftFit⟩ := fits .left
    [⟨0.0, 0.0, 0.0⟩, ⟨0.0, -63.6, -12.5⟩, ⟨43.3, 32.7, -26.0⟩, ⟨28.9, -28.9, -24.1⟩]
  obtain ⟨right, rightFit⟩ := fits .right
    [⟨0.0, 0.0, 0.0⟩, ⟨0.0, -63.6, -12.5⟩, ⟨-43.3, 32.7, -26.0⟩, ⟨-28.9, -28.9, -24.1⟩]
  have turns : turned.IsRotation :=
    Matrix3.isRotation_ofAxisAngle (by norm_num) (ExactFunctions.analytic_isCircular _)
  have flips : flipped.IsRotation :=
    Matrix3.isRotation_ofAxisAngle (by norm_num) (ExactFunctions.analytic_isCircular _)
  let t : Point3 (Exact .analytic) := ⟨⟨0⟩, ⟨0⟩, ⟨600⟩⟩
  have towardsLeft : turned.third.x.real < 0 := by
    have sine : ExactFunctions.analytic.sin (Real.pi / 2) = 1 := Real.sin_pi_div_two
    simp [turned, Matrix3.ofAxisAngle, sine]
  have level : ¬ flipped.third.x.real < 0 := by simp [flipped, Matrix3.ofAxisAngle]
  have reads := (fallback_reads_nearer_side .analytic ExactFunctions.analytic_signToTheRight .normal g f
    (PoseGaze.fullFit?_eq_none_iff.mp rejected)).1
  have readsLeft := (reads turned t turns).2.1 (FaceModel.leftNearer_iff.mpr towardsLeft)
  have readsRight := (reads flipped t flips).2.2 (mt FaceModel.leftNearer_iff.mp level)
  exact ⟨left, right, leftFit, rightFit, readsLeft.trans (PoseGaze.rayFrom_of_fit leftFit),
    readsRight.trans (PoseGaze.rayFrom_of_fit rightFit)⟩

end DriverMonitor
