import DriverMonitor.Proofs.Number.Double
import DriverMonitor.Gaze.Pose

/-! # What is known of a pose that was found

The search for a pose carries parameters, residuals and cost along. `Evaluated` says that the three
belong together; a step is taken only to an evaluated point of lower cost, so every end of the search
is evaluated and costs no more than its start. Nothing is assumed of the steps, which any solver may
propose, nor of the rotation that a vector stands for.

A finite cost does the rest. It is a sum of squares, so every residual is finite, and with it every
pixel and the depth of every point: a depth that is not a number is not behind the camera, but what is
seen of it would not be a number either.
-/

namespace DriverMonitor

open Number

namespace PoseProblem

variable {method : PoseMethod Float} {problem : PoseProblem Float} {p : Placement Float}
variable {residuals : List Float} {c : Correspondence Float}

/-! ## Residuals -/

theorem exists_of_mapM_eq_some {α β : Type} {f : α → Option β} {xs : List α} {ys : List β} {x : α}
    (mapped : xs.mapM f = some ys) (member : x ∈ xs) : ∃ y ∈ ys, f x = some y := by
  induction xs generalizing ys with
  | nil => cases member
  | cons first rest ih =>
    rw [List.mapM_cons] at mapped
    obtain ⟨y, here, mapped⟩ := Option.bind_eq_some_iff.mp mapped
    obtain ⟨others, there, whole⟩ := Option.bind_eq_some_iff.mp mapped
    cases whole
    cases member with
    | head => exact ⟨y, List.mem_cons_self, here⟩
    | tail _ member =>
      obtain ⟨z, present, given⟩ := ih there member
      exact ⟨z, List.mem_cons_of_mem y present, given⟩

/-- Where there are residuals, every point is seen, and both of its differences are among them. -/
theorem seen_of_residuals? (found : problem.residuals? method p = some residuals)
    (member : c ∈ problem.correspondences) :
    ∃ seen, problem.camera.project? (p.place method c.model) = some seen ∧
      seen.x - c.pixel.x ∈ residuals ∧ seen.y - c.pixel.y ∈ residuals := by
  obtain ⟨pixels, mapped, whole⟩ := Option.bind_eq_some_iff.mp found
  cases whole
  obtain ⟨differences, present, given⟩ := exists_of_mapM_eq_some mapped member
  obtain ⟨seen, projected, pair⟩ := Option.bind_eq_some_iff.mp given
  cases pair
  refine ⟨seen, projected, ?_, ?_⟩
  · exact List.mem_flatten_of_mem present (by simp)
  · exact List.mem_flatten_of_mem present (by simp)

/-- A finite cost has finite residuals. -/
theorem finite_of_costOf (finite : Scalar.isFinite (costOf residuals) = true) :
    ∀ r ∈ residuals, Scalar.isFinite r = true := by
  intro r member
  have square := finite_of_sum finite (Scalar.square r) (List.mem_map_of_mem member)
  exact (finite_of_mul square).1

theorem isNaN_leastDepth : Scalar.isNaN (Camera.leastDepth : Float) = false := by decide +kernel

/-- Under a finite cost every pixel is finite, and every point truly lies in front of the camera. -/
theorem inFront_of_costOf (found : problem.residuals? method p = some residuals)
    (finite : Scalar.isFinite (costOf residuals) = true) (member : c ∈ problem.correspondences) :
    c.pixel.isFinite = true ∧
      Scalar.lt Camera.leastDepth (p.place method c.model).z = true ∧
      (problem.camera.project? (p.place method c.model)).isSome = true := by
  obtain ⟨seen, projected, xPresent, yPresent⟩ := seen_of_residuals? found member
  obtain ⟨seenX, pixelX⟩ := finite_of_sub (finite_of_costOf finite _ xPresent)
  obtain ⟨-, pixelY⟩ := finite_of_sub (finite_of_costOf finite _ yPresent)
  rw [projected]
  refine ⟨by rw [Point2.isFinite, pixelX, pixelY]; rfl, ?_, rfl⟩
  rw [Camera.project?] at projected
  split at projected
  next => cases projected
  next notBehind =>
    cases projected
    -- the depth divides what is seen, which would not be finite if the depth were no number
    have depthNumber := (finite_of_div (finite_of_add seenX).1).2
    exact less_of_not_le depthNumber isNaN_leastDepth notBehind

/-! ## The search -/

structure Evaluated (method : PoseMethod Float) (problem : PoseProblem Float)
    (e : PoseEstimate Float) : Prop where
  residuals : problem.residuals? method e.placement = some e.residuals
  cost : e.cost = costOf e.residuals

variable {e start : PoseEstimate Float}

theorem evaluate?_eq_some (evaluated : problem.evaluate? method p = some e) :
    Evaluated method problem e ∧ e.placement = p := by
  obtain ⟨residuals, found, whole⟩ := Option.map_eq_some_iff.mp evaluated
  cases whole
  exact ⟨⟨found, rfl⟩, rfl⟩

/-- What a step of the search keeps: it stays where it is or goes to an evaluated point of lower cost. -/
structure Descends (method : PoseMethod Float) (problem : PoseProblem Float)
    (start e : PoseEstimate Float) : Prop where
  evaluated : Evaluated method problem e
  cost : e.cost = start.cost ∨ Scalar.lt e.cost start.cost = true

theorem Descends.trans {middle : PoseEstimate Float} (first : Descends method problem start middle)
    (second : Descends method problem middle e) : Descends method problem start e := by
  refine ⟨second.evaluated, ?_⟩
  obtain same | lower := second.cost
  · rw [same]
    exact first.cost
  · obtain before | before := first.cost
    · rw [before] at lower
      exact .inr lower
    · exact .inr (less_trans lower before)

theorem Descends.le (descends : Descends method problem start e)
    (finite : Scalar.isFinite e.cost = true) : Scalar.le e.cost start.cost = true := by
  obtain same | lower := descends.cost
  · rw [← same]
    exact le_self (isNaN_of_isFinite finite)
  · exact le_of_less lower

theorem descends_of_better {better : PoseEstimate Float}
    (taken : (problem.evaluate? method p).filter (fun c => Scalar.lt c.cost start.cost) =
      some better) : Descends method problem start better := by
  obtain ⟨evaluated, lower⟩ := Option.filter_eq_some_iff.mp taken
  exact ⟨(evaluate?_eq_some evaluated).1, .inr lower⟩

/-- Whatever steps are proposed, the search ends at an evaluated point that costs no more than its
start. -/
theorem descends_of_search? {iterations : Nat} {damping : Float}
    (evaluated : Evaluated method problem start)
    (ends : problem.search? method iterations start damping = some e) :
    Descends method problem start e := by
  induction iterations generalizing start damping with
  | zero =>
    cases ends
    exact ⟨evaluated, .inl rfl⟩
  | succ iterations ih =>
    rw [search?] at ends
    obtain ⟨jacobian, -, ends⟩ := Option.bind_eq_some_iff.mp ends
    split at ends
    -- there is no step
    next => exact ih evaluated ends
    next step solved =>
      dsimp only at ends
      split at ends
      next better taken =>
        have descends := descends_of_better taken
        split at ends
        next settled =>
          cases ends
          exact descends
        next => exact descends.trans (ih descends.evaluated ends)
      -- the step is refused
      next =>
        split at ends
        next =>
          cases ends
          exact ⟨evaluated, .inl rfl⟩
        next => exact ih evaluated ends

/-- The end of a search from a start, seen from the point at which it begins. -/
theorem refine?_eq_some {rotation : Point3 Float}
    (ends : problem.refine? method rotation = some e) :
    ∃ initial, problem.evaluate? method (problem.initialGuess method rotation) = some initial ∧
      Descends method problem initial e := by
  obtain ⟨initial, begins, ends⟩ := Option.bind_eq_some_iff.mp ends
  exact ⟨initial, begins, descends_of_search? (evaluate?_eq_some begins).1 ends⟩

/-! ## The better end -/

/-- The fold keeps an end that no other costs less than. -/
theorem best_spec {rest : List (PoseEstimate Float)}
    (numbers : ∀ e ∈ start :: rest, Scalar.isNaN e.cost = false) :
    let best := rest.foldl (fun best e => if Scalar.lt e.cost best.cost then e else best) start
    best ∈ start :: rest ∧ ∀ e ∈ start :: rest, Scalar.le best.cost e.cost = true := by
  induction rest generalizing start with
  | nil =>
    refine ⟨List.mem_singleton_self start, fun e member => ?_⟩
    rw [List.mem_singleton.mp member]
    exact le_self (numbers start List.mem_cons_self)
  | cons first rest ih =>
    simp only [List.forall_mem_cons] at numbers ih ⊢
    obtain ⟨startNumber, firstNumber, restNumbers⟩ := numbers
    rw [List.foldl_cons]
    split
    next less =>
      obtain ⟨member, nearest, others⟩ := ih ⟨firstNumber, restNumbers⟩
      refine ⟨List.mem_cons_of_mem start member, ?_, nearest, others⟩
      exact le_trans_le nearest (le_of_less less)
    next notLess =>
      obtain ⟨member, nearest, others⟩ := ih ⟨startNumber, restNumbers⟩
      refine ⟨?_, nearest, ?_, others⟩
      · simp only [List.mem_cons] at member ⊢
        tauto
      · exact le_trans_le nearest (le_of_not_less firstNumber startNumber notLess)

theorem best?_spec {ends : List (PoseEstimate Float)} (best : best? ends = some e)
    (numbers : ∀ other ∈ ends, Scalar.isNaN other.cost = false) :
    e ∈ ends ∧ ∀ other ∈ ends, Scalar.le e.cost other.cost = true := by
  cases ends with
  | nil => cases best
  | cons first rest =>
    cases best
    exact best_spec numbers

def candidates (method : PoseMethod Float) (problem : PoseProblem Float) :
    List (PoseEstimate Float) :=
  (starts.filterMap (problem.refine? method)).filter fun e => Scalar.isFinite e.cost

/-- The candidates are the ends of both searches, as far as their cost is finite. -/
theorem mem_candidates : e ∈ candidates method problem ↔
    (∃ rotation ∈ starts, problem.refine? method rotation = some e) ∧
      Scalar.isFinite e.cost = true := by
  simp [candidates]

theorem best?_candidates (best : best? (candidates method problem) = some e) :
    e ∈ candidates method problem ∧
      ∀ other ∈ candidates method problem, Scalar.le e.cost other.cost = true := by
  apply best?_spec best
  intro other member
  exact isNaN_of_isFinite (mem_candidates.mp member).2

end PoseProblem

/-! ## Solutions -/

namespace HeadPose

open PoseProblem

variable {method : PoseMethod Float} {model : List (Point3 Float)} {image : List (Point2 Float)}
variable {camera : Camera Float} {pose : HeadPose Float}

/-- A pose is one of the candidates. -/
theorem exists_end_of_solveWith (solved : solveWith method model image camera = .ok pose) :
    model.length = image.length ∧ 4 ≤ model.length ∧
      ∃ e, best? (candidates method ⟨camera, List.zipWith .mk model image⟩) = some e ∧
        e.placement = pose.placement ∧
        pose.reprojectionError = Scalar.sqrt (e.cost / Scalar.ofNat model.length) := by
  rw [solveWith] at solved
  split at solved
  -- lists of different lengths, too few points and a search without an end are errors
  next => cases solved
  next sameLength =>
    split at solved
    next => cases solved
    next enough =>
      dsimp only at solved
      split at solved
      next => cases solved
      next e best =>
        cases solved
        exact ⟨not_not.mp sameLength, not_lt.mp enough, e, best, rfl, rfl⟩

/-- With enough points on both sides there is only one way to fail. -/
theorem noConvergence_of_solveWith {failure : Failure} (sameLength : model.length = image.length)
    (enough : 4 ≤ model.length) (failed : solveWith method model image camera = .error failure) :
    failure = .poseEstimation .noConvergence := by
  rw [solveWith, if_neg (not_not.mpr sameLength), if_neg (not_lt.mpr enough)] at failed
  dsimp only at failed
  split at failed
  next =>
    cases failed
    rfl
  next => cases failed

theorem exists_correspondence_of_point (sameLength : model.length = image.length)
    {point : Point3 Float} (member : point ∈ model) :
    ∃ c ∈ List.zipWith Correspondence.mk model image, c.model = point := by
  obtain ⟨i, inside, rfl⟩ := List.getElem_of_mem member
  refine ⟨⟨model[i], image[i]⟩, List.mem_iff_getElem.mpr ⟨i, ?_, ?_⟩, rfl⟩
  · simp
    omega
  · simp

theorem exists_correspondence_of_pixel (sameLength : model.length = image.length)
    {pixel : Point2 Float} (member : pixel ∈ image) :
    ∃ c ∈ List.zipWith Correspondence.mk model image, c.pixel = pixel := by
  obtain ⟨i, inside, rfl⟩ := List.getElem_of_mem member
  refine ⟨⟨model[i], image[i]⟩, List.mem_iff_getElem.mpr ⟨i, ?_, ?_⟩, rfl⟩
  · simp
    omega
  · simp

/-- What a pose says of the points and pixels it was found from. -/
structure Fits (method : PoseMethod Float) (model : List (Point3 Float))
    (image : List (Point2 Float)) (camera : Camera Float) (pose : HeadPose Float) : Prop where
  sameLength : model.length = image.length
  enough : 4 ≤ model.length
  pixels : ∀ pixel ∈ image, pixel.isFinite = true
  inFront : ∀ point ∈ model,
    Scalar.lt Camera.leastDepth (pose.placement.place method point).z = true ∧
      (camera.project? (pose.placement.place method point)).isSome = true
  /-- The error is that of the residuals which the pose itself leaves, and no start that led
  somewhere left smaller ones. -/
  error : ∃ residuals,
    residuals? method ⟨camera, List.zipWith .mk model image⟩ pose.placement = some residuals ∧
    Scalar.isFinite (costOf residuals) = true ∧
    pose.reprojectionError = Scalar.sqrt (costOf residuals / Scalar.ofNat model.length) ∧
    ∀ start ∈ starts, ∀ e,
      refine? method ⟨camera, List.zipWith .mk model image⟩ start = some e →
      Scalar.isFinite e.cost = true →
      ∃ initial,
        residuals? method ⟨camera, List.zipWith .mk model image⟩
          (initialGuess method ⟨camera, List.zipWith .mk model image⟩ start) = some initial ∧
        Scalar.le (costOf residuals) (costOf initial) = true

theorem fits_of_solveWith (solved : solveWith method model image camera = .ok pose) :
    Fits method model image camera pose := by
  obtain ⟨sameLength, enough, chosen, best, placed, error⟩ := exists_end_of_solveWith solved
  obtain ⟨member, least⟩ := best?_candidates best
  obtain ⟨⟨_, -, ends⟩, finite⟩ := mem_candidates.mp member
  obtain ⟨_, -, descends⟩ := refine?_eq_some ends
  -- the chosen end is evaluated, so its parameters, residuals and cost belong together
  have chosenEvaluated := descends.evaluated
  have found := chosenEvaluated.residuals
  rw [placed] at found
  rw [chosenEvaluated.cost] at finite error
  refine ⟨sameLength, enough, ?_, ?_, chosen.residuals, found, finite, error, ?_⟩
  · intro pixel member
    obtain ⟨c, present, rfl⟩ := exists_correspondence_of_pixel sameLength member
    exact (inFront_of_costOf found finite present).1
  · intro point member
    obtain ⟨c, present, rfl⟩ := exists_correspondence_of_point sameLength member
    exact (inFront_of_costOf found finite present).2
  · intro start started e ends finiteEnd
    obtain ⟨initial, begins, descends⟩ := refine?_eq_some ends
    obtain ⟨evaluated, here⟩ := evaluate?_eq_some begins
    have atStart := evaluated.residuals
    rw [here] at atStart
    refine ⟨initial.residuals, atStart, ?_⟩
    have noMore := least e (mem_candidates.mpr ⟨⟨start, started, ends⟩, finiteEnd⟩)
    rw [chosenEvaluated.cost] at noMore
    rw [← evaluated.cost]
    exact le_trans_le noMore (descends.le finiteEnd)

end HeadPose

/-! ## Faces -/

namespace PoseGaze

variable {g : PoseGaze Float} {f : Face Float} {point : Point3 Float}

theorem finite_of_toPixel (finite : (g.toPixel point).isFinite = true) :
    point.xy.isFinite = true := by
  obtain ⟨x, y⟩ := (Bool.and_eq_true _ _).mp finite
  exact (Bool.and_eq_true _ _).mpr ⟨(finite_of_mul x).1, (finite_of_mul y).1⟩

theorem toPixel_mem_image (member : point ∈ (FaceModel.landmarks f).toList) :
    g.toPixel point ∈ (g.image f).toList :=
  List.mem_map_of_mem member

/-- A landmark that is nowhere in the image leaves no finite cost, and so no candidate. -/
theorem noConvergence_of_landmark (method : PoseMethod Float)
    (member : point ∈ (FaceModel.landmarks f).toList) (nonfinite : point.xy.isFinite = false) :
    HeadPose.solveWith method FaceModel.points.toList (g.image f).toList g.camera =
      .error (.poseEstimation .noConvergence) := by
  cases solved : HeadPose.solveWith method FaceModel.points.toList (g.image f).toList g.camera with
  | ok pose =>
    have finite := (HeadPose.fits_of_solveWith solved).pixels _ (toPixel_mem_image member)
    rw [finite_of_toPixel finite] at nonfinite
    cases nonfinite
  | error failure =>
    rw [HeadPose.noConvergence_of_solveWith rfl (by decide) solved]

end PoseGaze

/-- A pose that is found fits its points and pixels, whichever steps and rotations were used. A face
with a landmark of the model that has no finite place in the image has no pose. -/
theorem found_poses_fit :
    (∀ (method : PoseMethod Float) (model : List (Point3 Float)) (image : List (Point2 Float))
        (camera : Camera Float) (pose : HeadPose Float),
        HeadPose.solveWith method model image camera = .ok pose →
        HeadPose.Fits method model image camera pose) ∧
    ∀ (g : PoseGaze Float) (f : Face Float),
      (∃ point ∈ (FaceModel.landmarks f).toList, point.xy.isFinite = false) →
      (∀ method, HeadPose.solveWith method FaceModel.points.toList (g.image f).toList g.camera =
        .error (.poseEstimation .noConvergence)) ∧
      g.head f = .error (.poseEstimation .noConvergence) ∧
      ∀ solver, g.estimateWith solver f = .error (.poseEstimation .noConvergence) := by
  refine ⟨fun _ _ _ _ _ => HeadPose.fits_of_solveWith, ?_⟩
  rintro g f ⟨point, member, nonfinite⟩
  have solved method := PoseGaze.noConvergence_of_landmark (g := g) method member nonfinite
  -- all of them ask for the pose first
  have head : g.head f = .error (.poseEstimation .noConvergence) := by
    rw [PoseGaze.head, PoseGaze.headPose, HeadPose.solve, solved]
    rfl
  refine ⟨solved, head, fun solver => ?_⟩
  rw [PoseGaze.estimateWith, head]
  rfl

/-- A method under which a search from four points ends after one step, and a face whose chin is at no
place. -/
theorem square_fits_and_lost_chin_has_no_pose :
    (∃ pose, HeadPose.Fits
      ⟨fun _ => .identity, fun _ _ => some [0.0, 0.0, 0.0, 0.0, 0.0, 5e-13]⟩
      [⟨0.0, 0.0, 0.0⟩, ⟨1.0, 0.0, 0.0⟩, ⟨0.0, 1.0, 0.0⟩, ⟨1.0, 1.0, 0.0⟩]
      [⟨0.0, 0.0⟩, ⟨1.0, 0.0⟩, ⟨0.0, 1.0⟩, ⟨1.0, 2.0⟩] ⟨1.0, ⟨0.0, 0.0⟩⟩ pose) ∧
    let centre : Point3 Float := ⟨0.5, 0.5, 0.0⟩
    let eyelid : Eyelid Float := ⟨centre, centre, centre, centre, centre, centre⟩
    let face : Face Float :=
      ⟨centre, ⟨0.0 / 0.0, 0.5, 0.0⟩, centre, centre, eyelid, eyelid, centre, centre⟩
    (PoseGaze.mk 640 480 2.0 10.0).head face = .error (.poseEstimation .noConvergence) := by
  refine ⟨?_, ?_⟩
  · cases solved : HeadPose.solveWith
      ⟨fun _ => .identity, fun _ _ => some [0.0, 0.0, 0.0, 0.0, 0.0, 5e-13]⟩
      [⟨0.0, 0.0, 0.0⟩, ⟨1.0, 0.0, 0.0⟩, ⟨0.0, 1.0, 0.0⟩, ⟨1.0, 1.0, 0.0⟩]
      [⟨0.0, 0.0⟩, ⟨1.0, 0.0⟩, ⟨0.0, 1.0⟩, ⟨1.0, 2.0⟩] (⟨1.0, ⟨0.0, 0.0⟩⟩ : Camera Float) with
    | ok pose => exact ⟨pose, found_poses_fit.1 _ _ _ _ _ solved⟩
    | error failure =>
      have converges : (HeadPose.solveWith
          ⟨fun _ => .identity, fun _ _ => some [0.0, 0.0, 0.0, 0.0, 0.0, 5e-13]⟩
          [⟨0.0, 0.0, 0.0⟩, ⟨1.0, 0.0, 0.0⟩, ⟨0.0, 1.0, 0.0⟩, ⟨1.0, 1.0, 0.0⟩]
          [⟨0.0, 0.0⟩, ⟨1.0, 0.0⟩, ⟨0.0, 1.0⟩, ⟨1.0, 2.0⟩]
          (⟨1.0, ⟨0.0, 0.0⟩⟩ : Camera Float)).toOption.isSome = true := by decide +kernel
      rw [solved] at converges
      cases converges
  · intro centre eyelid face
    apply (found_poses_fit.2 _ face ⟨face.chin, ?_, ?_⟩).2.1
    · simp [FaceModel.landmarks, FaceModel.Points.toList]
    · decide +kernel

end DriverMonitor
