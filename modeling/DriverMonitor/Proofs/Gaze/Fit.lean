import DriverMonitor.Proofs.Linear.Minimiser
import DriverMonitor.Gaze.Pose

/-! # Maps from the image into the face model

What a fit consists of, and when an exact solver finds one: three pixels that are not on one line are
enough. If an affine map takes the pixels to where the landmarks are in the model, it is the one that is
found, and leaves no residual.
-/

namespace DriverMonitor

open Number (Exact ExactFunctions)
open Matrix

namespace PlaneMap

def planarError {α : Type} [Scalar α] (fit : PlaneMap α) (pixel : Point2 α) (place : Point3 α) : α :=
  Scalar.square ((fit.map pixel).x - place.x) + Scalar.square ((fit.map pixel).y - place.y)

def weights {α : Type} (r : Point3 α) : List α := [r.x, r.y, r.z]

theorem weights_inj {α : Type} {r s : Point3 α} (same : weights r = weights s) : r = s := by
  cases r
  cases s
  simpa [weights] using same

theorem eq_weights {α : Type} {solution : List α} {r : Point3 α}
    (three : (match solution with
      | [u, v, w] => some (⟨u, v, w⟩ : Point3 α)
      | _ => none) = some r) : solution = weights r := by
  split at three
  · cases three
    rfl
  · cases three

/-- What a fit consists of. -/
theorem fit?_eq_some {α : Type} [Scalar α] {solver : LeastSquares α} {image : List (Point2 α)}
    {model : List (Point3 α)} {fit : PlaneMap α} (fitted : fit? solver image model = some fit) :
    solver.solve 3 (image.map row) (model.map (·.x)) = weights fit.transform.first ∧
    solver.solve 3 (image.map row) (model.map (·.y)) = weights fit.transform.second ∧
    solver.solve 3 (image.map row) (model.map (·.z)) = weights fit.transform.third ∧
    fit.residual = Scalar.sqrt
      (Scalar.sum (List.zipWith fit.planarError image model) / Scalar.ofNat image.length) := by
  simp only [fit?] at fitted
  split at fitted
  · cases fitted
  split at fitted
  next x y z =>
    cases fitted
    exact ⟨eq_weights x, eq_weights y, eq_weights z, rfl⟩
  · cases fitted

variable {c : ExactFunctions} {solver : LeastSquares (Exact c)} {image : List (Point2 (Exact c))}
variable {model : List (Point3 (Exact c))} {fit : PlaneMap (Exact c)}

/-! ## Pixels that determine a map -/

theorem row_dotProduct (p : Point2 (Exact c)) (w : Fin 3 → ℝ) :
    LeastSquares.entries 3 (row p) ⬝ᵥ w = p.x.real * w 0 + p.y.real * w 1 + w 2 := by
  simp [dotProduct, Fin.sum_univ_three, LeastSquares.entries, row]
  norm_num

theorem real_dot_pixel (weights : Point3 (Exact c)) (p : Point2 (Exact c)) :
    (weights.dot ⟨p.x, p.y, 1.0⟩).real =
      weights.x.real * p.x.real + weights.y.real * p.y.real + weights.z.real := by
  simp only [Point3.dot, Exact.real_add, Exact.real_mul, Exact.real_one, mul_one]

/-- Three pixels that are not on one line determine a map. -/
theorem rank_of_triangle {p q r : Point2 (Exact c)} (p_mem : p ∈ image) (q_mem : q ∈ image)
    (r_mem : r ∈ image)
    (apart : (q.x.real - p.x.real) * (r.y.real - p.y.real) ≠
      (r.x.real - p.x.real) * (q.y.real - p.y.real)) :
    (LeastSquares.matrix 3 (image.map row)).rank = 3 := by
  rw [LeastSquares.rank_matrix_eq_iff]
  simp only [List.forall_mem_map, row_dotProduct]
  intro w vanishes
  have atP := vanishes p p_mem
  have atQ := vanishes q q_mem
  have atR := vanishes r r_mem
  -- twice the area of the triangle
  have area := sub_ne_zero.mpr apart
  -- subtracting the equation at p leaves two equations in two unknowns, solved by elimination
  have first : w 0 = 0 := by
    apply (mul_eq_zero.mp _).resolve_left area
    linear_combination (r.y.real - p.y.real) * (atQ - atP) - (q.y.real - p.y.real) * (atR - atP)
  have second : w 1 = 0 := by
    apply (mul_eq_zero.mp _).resolve_left area
    linear_combination (q.x.real - p.x.real) * (atR - atP) - (r.x.real - p.x.real) * (atQ - atP)
  have third : w 2 = 0 := by simpa [first, second] using atP
  funext i
  fin_cases i
  exacts [first, second, third]

/-- An exact solver finds a map wherever the pixels determine one. -/
theorem exists_fit (exactSolver : solver.IsExact) (model : List (Point3 (Exact c)))
    (full : (LeastSquares.matrix 3 (image.map row)).rank = 3) :
    ∃ fit, fit? solver image model = some fit := by
  have determined : ¬ solver.rank 3 (image.map row) < 3 := by
    rw [exactSolver.rank, full]
    exact lt_irrefl 3
  -- one weight for each entry of a pixel
  have three (targets : List (Exact c)) : ∃ u v w, solver.solve 3 (image.map row) targets = [u, v, w] :=
    List.length_eq_three.mp (exactSolver.length_solve 3 _ targets)
  obtain ⟨_, _, _, x⟩ := three (model.map (·.x))
  obtain ⟨_, _, _, y⟩ := three (model.map (·.y))
  obtain ⟨_, _, _, z⟩ := three (model.map (·.z))
  simp only [fit?, if_neg determined, x, y, z]
  exact ⟨_, rfl⟩

/-! ## Residuals -/

theorem real_planarError (fit : PlaneMap (Exact c)) (p : Point2 (Exact c)) (q : Point3 (Exact c)) :
    (fit.planarError p q).real =
      ((fit.map p).x.real - q.x.real) ^ 2 + ((fit.map p).y.real - q.y.real) ^ 2 := by
  simp [planarError]

theorem planarError_nonneg (fit : PlaneMap (Exact c)) (p : Point2 (Exact c)) (q : Point3 (Exact c)) :
    0 ≤ (fit.planarError p q).real := by
  rw [real_planarError]
  positivity

/-- Pixels from which an affine map leads back to the landmarks give this map, without residual. -/
theorem fit?_of_affine (exactSolver : solver.IsExact) {pixel : Point3 (Exact c) → Point2 (Exact c)}
    {first second : Point3 (Exact c)}
    (full : (LeastSquares.matrix 3 ((model.map pixel).map row)).rank = 3)
    (x : ∀ p ∈ model, first.dot ⟨(pixel p).x, (pixel p).y, 1.0⟩ = p.x)
    (y : ∀ p ∈ model, second.dot ⟨(pixel p).x, (pixel p).y, 1.0⟩ = p.y) :
    ∃ fit, fit? solver (model.map pixel) model = some fit ∧ fit.transform.first = first ∧
      fit.transform.second = second ∧ fit.residual.real = 0 := by
  -- the rows of the affine map meet all equations, so an exact solver returns them
  have solved (coordinate : Point3 (Exact c) → Exact c) (r : Point3 (Exact c))
      (met : ∀ p ∈ model, r.dot ⟨(pixel p).x, (pixel p).y, 1.0⟩ = coordinate p) :
      solver.solve 3 ((model.map pixel).map row) (model.map coordinate) = weights r := by
    apply exactSolver.solve_eq full rfl
    intro i
    have inside : i.val < model.length := by simpa using i.isLt
    have here := congrArg Exact.real (met model[i.val] (List.getElem_mem inside))
    rw [real_dot_pixel] at here
    simp only [Fin.getElem_fin, List.getElem_map, row_dotProduct, LeastSquares.entries, weights]
    simp [inside, ← here]
    ring
  obtain ⟨fit, fitted⟩ := exists_fit exactSolver model full
  obtain ⟨firstRow, secondRow, -, residual⟩ := fit?_eq_some fitted
  have firstEq : fit.transform.first = first :=
    weights_inj (firstRow.symm.trans (solved (·.x) first x))
  have secondEq : fit.transform.second = second :=
    weights_inj (secondRow.symm.trans (solved (·.y) second y))
  have noError : List.zipWith fit.planarError (model.map pixel) model = model.map fun _ => ⟨0⟩ := by
    rw [List.zipWith_map_left, List.zipWith_self]
    apply List.map_congr_left
    intro p member
    simp only [planarError, map, Matrix3.apply, firstEq, secondEq, x p member, y p member]
    simp [Exact.ext_iff]
  refine ⟨fit, fitted, firstEq, secondEq, ?_⟩
  -- there are at least three pixels, so the mean of the errors is a proper quotient
  have height := (LeastSquares.matrix 3 ((model.map pixel).map row)).rank_le_height
  rw [full, List.length_map, List.length_map] at height
  have nonempty : (Scalar.ofNat (model.map pixel).length : Exact c).real ≠ 0 := by
    rw [Exact.real_ofNat, List.length_map, Nat.cast_ne_zero]
    omega
  rw [residual, noError, Exact.real_sqrt, Exact.real_div nonempty, Exact.real_sum]
  simp

end PlaneMap

/-! ## Faces for the pose model -/

/-- A face with given landmarks and pupils. The points that the pose model does not read lie at the tip
of the nose. -/
def Face.showing {α : Type} (p : FaceModel.Points (Point3 α)) (pupil : Side → Point3 α) : Face α :=
  let nose := p.noseTip
  { noseTip := nose, chin := p.chin, mouthLeft := p.mouthLeft, mouthRight := p.mouthRight
    eyelidLeft := ⟨nose, nose, nose, p.lateralLeft, nose, nose⟩
    eyelidRight := ⟨nose, nose, nose, p.lateralRight, nose, nose⟩
    pupilLeft := pupil .left, pupilRight := pupil .right }

theorem PoseGaze.image_showing {α : Type} [Scalar α] (g : PoseGaze α) (p : FaceModel.Points (Point3 α))
    (pupil : Side → Point3 α) : g.image (.showing p pupil) = p.map g.toPixel := rfl

variable {c : ExactFunctions}

/-- The usual settings for a frame of one pixel, in which the coordinates of a face are pixels. -/
noncomputable def PoseGaze.unit : PoseGaze (Exact c) := ⟨1, 1, 10.0, 12.0⟩

theorem PoseGaze.unit_toPixel (p : Point3 (Exact c)) : unit.toPixel p = p.xy := by
  simp [toPixel, unit, Point3.xy, Exact.ext_iff]

end DriverMonitor
