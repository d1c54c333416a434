import DriverMonitor.Proofs.Gaze.Fit
import DriverMonitor.Proofs.Store.ReadBack
import DriverMonitor.Gaze.Model

/-! # The length of a gaze

The pose model pushes its target away from the centre of the eyeball, through the pupil, and takes the
vector from the pupil to the target. In exact arithmetic this vector is a multiple of the one from the
centre to the pupil: an extension above one makes it longer or shorter, but it keeps its direction. At
an extension of one there would be no vector, and below one it would point backwards, so that these are
refused in a configuration.

With the mean of both eyes it is the same, since the mean of two rays is the ray of the mean eye.
-/

namespace DriverMonitor

open Number (Exact ExactFunctions)

structure MappedEye (α : Type) where
  pupil : Point3 α
  centre : Point3 α

namespace MappedEye

variable {α : Type} [Scalar α]

def gaze (eye : MappedEye α) : Point3 α := eye.pupil - eye.centre

def ray (extension : α) (eye : MappedEye α) : GazeRay α := .ofEye extension eye.pupil eye.centre

def mean (a b : MappedEye α) : MappedEye α where
  pupil := (a.pupil + b.pupil) * (0.5 : α)
  centre := (a.centre + b.centre) * (0.5 : α)

end MappedEye

namespace PoseGaze

variable {α : Type} [Scalar α]

def withExtension (g : PoseGaze α) (extension : α) : PoseGaze α := { g with extension := extension }

def eyeUnder (g : PoseGaze α) (f : Face α) (fit : PlaneMap α) (side : Side) : MappedEye α where
  pupil := fit.map (g.toPixel (f.pupil side))
  centre := FaceModel.eyeball side

/-- The eye that the gaze is read from: the mean of both under the map of the whole face, or the one on
the side that faces the camera. -/
def mappedEye (solver : LeastSquares α) (g : PoseGaze α) (f : Face α) (head : EulerAngles α) :
    Except Failure (MappedEye α) :=
  match g.fullFit? solver f with
  | some fit => .ok ((g.eyeUnder f fit .left).mean (g.eyeUnder f fit .right))
  | none =>
    match g.sideFit? solver f (facingSide head) with
    | some fit => .ok (g.eyeUnder f fit (facingSide head))
    | none => .error (.degenerateGeometry .collinearLandmarks)

end PoseGaze

/-- A configuration that is not refused pushes the target past the pupil. -/
theorem GazeModel.extension_poseOf {config : Config} (valid : config.validate = .ok ()) :
    Scalar.lt 1.0 (poseOf config).extension = true := by
  have faultless := Config.validate_eq_ok_iff.mp valid
  by_contra short
  have refused : ¬ 1.0 < config.gaze.extension := fun above => short (decide_eq_true above)
  simp only [Config.fault?, refused, not_false_iff, if_true] at faultless
  grind

variable {c : ExactFunctions}

/-! ## The ray of an eye -/

namespace MappedEye

variable (eye : MappedEye (Exact c)) (k : Exact c)

theorem ray_mean (a b : MappedEye (Exact c)) : (a.mean b).ray k = (a.ray k).mean (b.ray k) := by
  simp only [ray, mean, GazeRay.ofEye, GazeRay.mean, Point3.add_def, Point3.sub_def, Point3.mul_def,
    GazeRay.mk.injEq, Point3.mk.injEq, Exact.ext_iff, Exact.real_add, Exact.real_sub, Exact.real_mul,
    true_and]
  refine ⟨?_, ?_, ?_⟩ <;> ring

theorem direction_ray : (eye.ray k).direction = eye.gaze * (k - 1.0) := by
  simp only [ray, gaze, GazeRay.direction, GazeRay.ofEye, Point3.add_def, Point3.sub_def,
    Point3.mul_def, Point3.mk.injEq, Exact.ext_iff, Exact.real_add, Exact.real_sub, Exact.real_mul,
    Exact.real_one]
  refine ⟨?_, ?_, ?_⟩ <;> ring

end MappedEye

/-! ## Angles of a direction -/

namespace GazeRay

variable {r r' : GazeRay (Exact c)}

/-- Rays of one direction have the same angles. -/
theorem angle_eq_of_multiple (directions : c.OfDirections) {scale : Exact c} (positive : 0 < scale.real)
    (multiple : r.direction = r'.direction * scale) : r.angle = r'.angle := by
  -- atan2 sees both coordinates of the direction multiplied alike
  have same := directions scale.real positive
  simp only [mul_comm scale.real] at same
  simp only [angle, multiple, Point3.mul_def, GazeAngle.mk.injEq, Exact.ext_iff, Exact.real_neg,
    Exact.real_toDegrees, Exact.real_atan2, Exact.real_mul, same, and_self]

end GazeRay

/-- The negative of an angle lies on the other side of zero than what its height is a multiple of. -/
theorem opposite_angle (signs : c.SignOfHeight) {height factor : Exact c} (base : Exact c) {d : ℝ}
    (positive : 0 < factor.real) (multiple : height.real = d * factor.real) :
    (0 < d → (-Scalar.toDegrees (Scalar.atan2 height base)).real < 0) ∧
    (d < 0 → 0 < (-Scalar.toDegrees (Scalar.atan2 height base)).real) := by
  -- the angle has the sign of its height, and so of d
  have sign (nonzero : d ≠ 0) :
      SignType.sign (-Scalar.toDegrees (Scalar.atan2 height base)).real = -SignType.sign d := by
    have notLevel : height.real ≠ 0 := by
      rw [multiple]
      exact mul_ne_zero nonzero positive.ne'
    rw [Exact.real_neg, Left.sign_neg, Exact.sign_toDegrees, Exact.real_atan2, signs _ _ notLevel,
      multiple, sign_mul, sign_pos positive, mul_one]
  constructor
  · intro above
    apply sign_eq_neg_one_iff.mp
    rw [sign above.ne', sign_pos above]
  · intro below
    apply sign_eq_one_iff.mp
    rw [sign below.ne, sign_neg below, neg_neg]

/-- The angles say on which sides of the centre the pupil lies. -/
structure GazeAngle.PointsTo (a : GazeAngle (Exact c)) (eye : MappedEye (Exact c)) : Prop where
  left : eye.centre.x.real < eye.pupil.x.real → a.yaw.real < 0
  right : eye.pupil.x.real < eye.centre.x.real → 0 < a.yaw.real
  up : eye.centre.y.real < eye.pupil.y.real → a.pitch.real < 0
  down : eye.pupil.y.real < eye.centre.y.real → 0 < a.pitch.real

/-! ## Extensions above one -/

namespace MappedEye

variable {eye : MappedEye (Exact c)} {k : Exact c}

theorem sub_one_pos (beyond : 1 < k.real) : 0 < (k - 1.0).real := by
  rw [Exact.real_sub, Exact.real_one]
  exact sub_pos.mpr beyond

theorem factor_pos {k' : Exact c} (beyond : 1 < k.real) (beyond' : 1 < k'.real) :
    0 < ((k - 1.0) / (k' - 1.0)).real := by
  have longer := sub_one_pos beyond'
  rw [Exact.real_div longer.ne']
  exact div_pos (sub_one_pos beyond) longer

/-- Two extensions give rays that differ in their length only. -/
theorem direction_ray_eq_mul (k : Exact c) {k' : Exact c} (beyond' : 1 < k'.real) :
    (eye.ray k).direction = (eye.ray k').direction * ((k - 1.0) / (k' - 1.0)) := by
  have nonzero := (sub_one_pos beyond').ne'
  simp only [direction_ray, Point3.mul_def, Point3.mk.injEq, Exact.ext_iff, Exact.real_mul,
    Exact.real_div nonzero]
  refine ⟨?_, ?_, ?_⟩ <;> field_simp

/-- An extension above one does not turn the ray round, so the angles have the signs of where the pupil
is. -/
theorem pointsTo_ray (signs : c.SignOfHeight) (beyond : 1 < k.real) :
    (eye.ray k).angle.PointsTo eye := by
  have sideways : (eye.ray k).direction.x.real =
      (eye.pupil.x.real - eye.centre.x.real) * (k - 1.0).real := by
    rw [direction_ray]
    rfl
  have upwards : (eye.ray k).direction.y.real =
      (eye.pupil.y.real - eye.centre.y.real) * (k - 1.0).real := by
    rw [direction_ray]
    rfl
  have yaw := opposite_angle signs (eye.ray k).direction.z (sub_one_pos beyond) sideways
  have pitch := opposite_angle signs (eye.ray k).direction.z (sub_one_pos beyond) upwards
  exact ⟨fun left => yaw.1 (sub_pos.mpr left), fun right => yaw.2 (sub_neg.mpr right),
    fun up => pitch.1 (sub_pos.mpr up), fun down => pitch.2 (sub_neg.mpr down)⟩

end MappedEye

/-! ## The model -/

namespace PoseGaze

variable {solver : LeastSquares (Exact c)} {g : PoseGaze (Exact c)} {f : Face (Exact c)}
variable {head : EulerAngles (Exact c)}

/-- Which eye is seen does not depend on the extension, and the ray is its ray. -/
theorem ray_withExtension (k : Exact c) : (g.withExtension k).ray solver f head =
    (g.mappedEye solver f head).map (MappedEye.ray k) := by
  have whole : (g.withExtension k).fullFit? solver f = g.fullFit? solver f := rfl
  have oneSided (side : Side) : (g.withExtension k).sideFit? solver f side = g.sideFit? solver f side := rfl
  simp only [ray, mappedEye, whole, oneSided]
  cases g.fullFit? solver f with
  | some fit =>
    simp only [Except.map, MappedEye.ray_mean]
    rfl
  | none =>
    cases g.sideFit? solver f (facingSide head) <;> rfl

theorem estimateWith_withExtension (k : Exact c) : (g.withExtension k).estimateWith solver f = do
    let head ← g.head f
    let eye ← g.mappedEye solver f head
    return ((eye.ray k).angle, head) := by
  have sameHead : (g.withExtension k).head f = g.head f := rfl
  rw [estimateWith, sameHead]
  cases g.head f with
  | error => rfl
  | ok head =>
    simp only [bind, Except.bind, ray_withExtension]
    cases g.mappedEye solver f head <;> rfl

end PoseGaze

/-- A configuration is only admitted with an extension above one, and above one the extension changes the
length of the gaze but not its direction. The gaze is a positive multiple of the vector from the centre of
the eyeball to the pupil, where the eye is the mean of both or that of one side, so all extensions give
the same angles, which tell on which sides of the centre the pupil lies. -/
theorem gaze_does_not_depend_on_extension (c : ExactFunctions) (solver : LeastSquares (Exact c))
    (g : PoseGaze (Exact c)) (f : Face (Exact c)) (k k' : Exact c) (beyond : Scalar.lt 1.0 k = true)
    (beyond' : Scalar.lt 1.0 k' = true) :
    (∀ config : Config, config.validate = .ok () →
      Scalar.lt 1.0 (GazeModel.poseOf config).extension = true) ∧
    (∀ head eye, g.mappedEye solver f head = .ok eye → ∃ r r',
      (g.withExtension k).ray solver f head = .ok r ∧
      (g.withExtension k').ray solver f head = .ok r' ∧
      r.direction = eye.gaze * (k - 1.0) ∧
      r.direction = r'.direction * ((k - 1.0) / (k' - 1.0)) ∧
      0 < ((k - 1.0) / (k' - 1.0)).real ∧
      (c.OfDirections → r.angle = r'.angle) ∧
      (c.SignOfHeight → r.angle.PointsTo eye)) ∧
    (c.OfDirections →
      (g.withExtension k).estimateWith solver f = (g.withExtension k').estimateWith solver f) ∧
    ∀ gaze head, (g.withExtension k).estimateWith solver f = .ok (gaze, head) →
      ∃ eye r, g.mappedEye solver f head = .ok eye ∧
        (g.withExtension k).ray solver f head = .ok r ∧ gaze = r.angle := by
  rw [Exact.lt_iff, Exact.real_one] at beyond beyond'
  have positive := MappedEye.factor_pos beyond beyond'
  have angles (directions : c.OfDirections) (eye : MappedEye (Exact c)) :
      (eye.ray k).angle = (eye.ray k').angle :=
    GazeRay.angle_eq_of_multiple directions positive (MappedEye.direction_ray_eq_mul k beyond')
  -- the extension enters only after the eye has been mapped
  have rays {head : EulerAngles (Exact c)} {eye : MappedEye (Exact c)}
      (seen : g.mappedEye solver f head = .ok eye) (extension : Exact c) :
      (g.withExtension extension).ray solver f head = .ok (eye.ray extension) := by
    rw [PoseGaze.ray_withExtension, seen]
    rfl
  refine ⟨fun _ => GazeModel.extension_poseOf, ?_, ?_, ?_⟩
  · intro head eye seen
    exact ⟨eye.ray k, eye.ray k', rays seen k, rays seen k', MappedEye.direction_ray eye k,
      MappedEye.direction_ray_eq_mul k beyond', positive, fun directions => angles directions eye,
      fun signs => MappedEye.pointsTo_ray signs beyond⟩
  · intro directions
    simp only [PoseGaze.estimateWith_withExtension, angles directions]
  · intro gaze head estimated
    rw [PoseGaze.estimateWith_withExtension] at estimated
    obtain ⟨turned, -, estimated⟩ := exists_of_bind_eq_ok estimated
    obtain ⟨eye, seen, estimated⟩ := exists_of_bind_eq_ok estimated
    cases estimated
    exact ⟨eye, eye.ray k, seen, rays seen k, rfl⟩

/-! ## A face from the front -/

/-- A face seen as the model is, from the front, with each pupil at some place beside the centre of its
eyeball. -/
noncomputable def Face.frontal (beside : Point3 (Exact c)) : Face (Exact c) :=
  .showing FaceModel.points fun side => FaceModel.eyeball side + beside

/-- The map of the whole face takes each pixel to the same x and y. -/
theorem PoseGaze.fullFit?_frontal {solver : LeastSquares (Exact c)} (exactSolver : solver.IsExact)
    (beside : Point3 (Exact c)) :
    ∃ fit, unit.fullFit? solver (.frontal beside) = some fit ∧
      ∀ p : Point2 (Exact c), (fit.map p).xy = p := by
  have pixels : (unit.image (.frontal beside)).toList =
      (FaceModel.points (α := Exact c)).toList.map Point3.xy := by
    rw [Face.frontal, image_showing, funext unit_toPixel]
    rfl
  -- the nose, the chin and one eye are not on one line
  have full : (LeastSquares.matrix 3 (((FaceModel.points (α := Exact c)).toList.map Point3.xy).map
      PlaneMap.row)).rank = 3 := by
    apply PlaneMap.rank_of_triangle (List.mem_map_of_mem (.head _))
      (List.mem_map_of_mem (.tail _ (.head _))) (List.mem_map_of_mem (.tail _ (.tail _ (.head _))))
    norm_num [FaceModel.points, Point3.xy]
  let first : Point3 (Exact c) := ⟨⟨1⟩, ⟨0⟩, ⟨0⟩⟩
  let second : Point3 (Exact c) := ⟨⟨0⟩, ⟨1⟩, ⟨0⟩⟩
  have x (p : Point2 (Exact c)) : first.dot ⟨p.x, p.y, 1.0⟩ = p.x := by
    simp [Exact.ext_iff, PlaneMap.real_dot_pixel, first]
  have y (p : Point2 (Exact c)) : second.dot ⟨p.x, p.y, 1.0⟩ = p.y := by
    simp [Exact.ext_iff, PlaneMap.real_dot_pixel, second]
  obtain ⟨fit, fitted, isFirst, isSecond, residual⟩ := PlaneMap.fit?_of_affine exactSolver full
    (fun p _ => x p.xy) (fun p _ => y p.xy)
  refine ⟨fit, ?_, ?_⟩
  · have close : Scalar.le fit.residual unit.maxResidual = true := by
      rw [Exact.le_iff, residual]
      norm_num [unit]
    rw [fullFit?, pixels, fitted, Option.filter_some, if_pos close]
  · intro p
    simp only [PlaneMap.map, Matrix3.apply, Point3.xy, isFirst, isSecond, x, y]

/-- Pupils to the left of and below the centres of their eyes give angles to the left and down, the same
ones with an extension of two as with one of ten. -/
theorem gaze_does_not_depend_on_extension_frontal :
    let g : PoseGaze (Exact .analytic) := .unit
    let beside : Point3 (Exact .analytic) := ⟨⟨1⟩, ⟨-1⟩, ⟨0⟩⟩
    let f : Face (Exact .analytic) := .frontal beside
    let head : EulerAngles (Exact .analytic) := ⟨⟨0⟩, ⟨0⟩, ⟨0⟩⟩
    ∃ near far, (g.withExtension 2.0).ray .normal f head = .ok near ∧
      (g.withExtension 10.0).ray .normal f head = .ok far ∧ near.angle = far.angle ∧
      near.angle.yaw.real < 0 ∧ 0 < near.angle.pitch.real := by
  intro g beside f head
  obtain ⟨fit, fitted, places⟩ := PoseGaze.fullFit?_frontal LeastSquares.normal_isExact beside
  have placed (side : Side) : (fit.map (g.toPixel (f.pupil side))).xy =
      (FaceModel.eyeball side + beside).xy := by
    rw [places, PoseGaze.unit_toPixel]
    cases side <;> rfl
  -- the map of the whole face is good enough, so the eye is the mean of both
  let eye := (g.eyeUnder f fit .left).mean (g.eyeUnder f fit .right)
  have seen : g.mappedEye .normal f head = .ok eye := by
    simp only [PoseGaze.mappedEye, g, f, fitted]
    rfl
  have onTheLeft : eye.centre.x.real < eye.pupil.x.real := by
    have left : (fit.map (g.toPixel (f.pupil .left))).x = _ := congrArg Point2.x (placed .left)
    have right : (fit.map (g.toPixel (f.pupil .right))).x = _ := congrArg Point2.x (placed .right)
    simp [eye, MappedEye.mean, PoseGaze.eyeUnder, Point3.add_def, Point3.mul_def, left, right,
      Point3.xy, FaceModel.eyeball, beside]
    norm_num
  have below : eye.pupil.y.real < eye.centre.y.real := by
    have left : (fit.map (g.toPixel (f.pupil .left))).y = _ := congrArg Point2.y (placed .left)
    have right : (fit.map (g.toPixel (f.pupil .right))).y = _ := congrArg Point2.y (placed .right)
    simp [eye, MappedEye.mean, PoseGaze.eyeUnder, Point3.add_def, Point3.mul_def, left, right,
      Point3.xy, FaceModel.eyeball, beside]
    norm_num
  obtain ⟨near, far, nearRay, farRay, -, -, -, same, signs⟩ := (gaze_does_not_depend_on_extension
    .analytic .normal g f 2.0 10.0 (by rw [Exact.lt_iff]; norm_num) (by rw [Exact.lt_iff]; norm_num)).2.1
    head eye seen
  have sides := signs ExactFunctions.analytic_signOfHeight
  exact ⟨near, far, nearRay, farRay, same ExactFunctions.analytic_ofDirections, sides.left onTheLeft,
    sides.down below⟩

end DriverMonitor
