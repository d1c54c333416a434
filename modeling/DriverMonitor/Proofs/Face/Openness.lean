import DriverMonitor.Proofs.Number.Bounds
import DriverMonitor.Monitor.DriverState

/-! # How open published eyes are

The gaze of a published state is checked to be finite, and so are the landmarks that the state comes
from; the openness of the eyes is not. Lid gaps and widths are lengths: never negative and always
numbers, but infinite if points are too far apart for their distance to be squared. So the openness is
never negative, and it is not a number exactly when gaps and width are both infinite.

For points that are nowhere near that far apart it is finite. There is nothing to fear from small
widths: a width that is not zero is a root, and roots of numbers are far from the least ones.
-/

namespace DriverMonitor

open Number
open Float.Model (UnpackedFloat)

/-! ## Ratios of lengths -/

section Ratios

variable {gaps widths : Float} {k : ℤ}

theorem opennessRatio_of_positive (positive : Scalar.lt 0.0 widths = true) :
    opennessRatio gaps widths = gaps / widths :=
  if_pos positive

theorem opennessRatio_of_not_positive (none : ¬ Scalar.lt 0.0 widths = true) :
    opennessRatio gaps widths = 0.0 :=
  if_neg none

/-- A quotient of lengths may be no number, since both can be infinite, but it is never negative. -/
theorem unsigned_opennessRatio (gapsLength : Length gaps) (widthsLength : Length widths) :
    Unsigned (value (opennessRatio gaps widths)) := by
  by_cases positive : Scalar.lt 0.0 widths = true
  · rw [opennessRatio_of_positive positive]
    exact unsigned_stored (gapsLength.unsigned.div widthsLength.unsigned)
  · rw [opennessRatio_of_not_positive positive, value_zero]
    rfl

theorem le_opennessRatio (gapsLength : Length gaps) (widthsLength : Length widths)
    (number : Scalar.isNaN (opennessRatio gaps widths) = false) :
    Scalar.le 0.0 (opennessRatio gaps widths) = true :=
  Length.le ⟨unsigned_opennessRatio gapsLength widthsLength, number⟩

/-- Only what is infinite over what is infinite is no number. -/
theorem isNaN_opennessRatio_iff (gapsLength : Length gaps) (widthsLength : Length widths) :
    Scalar.isNaN (opennessRatio gaps widths) = true ↔
      Scalar.isFinite gaps = false ∧ Scalar.isFinite widths = false := by
  rw [isFinite_eq, isFinite_eq]
  by_cases positive : Scalar.lt 0.0 widths = true
  · rw [opennessRatio_of_positive positive, isNaN_eq, value_div, isNaN_stored]
    have nonzero := value_ne_zero positive .positive
    obtain widthsAre | widthsAre | ⟨n, d, q, widthsAre⟩ := widthsLength.cases
    · exact absurd widthsAre nonzero
    all_goals
      obtain gapsAre | gapsAre | ⟨m, e, p, gapsAre⟩ := gapsLength.cases <;>
        simp [widthsAre, gapsAre, UnpackedFloat.div, UnpackedFloat.isNaN, UnpackedFloat.isFinite]
    -- a quotient of finite numbers is rounded
    exact isNaN_roundWithAccuracy _ _ _ _
  · have zero : Scalar.isNaN (0.0 : Float) = false := by decide +kernel
    rw [opennessRatio_of_not_positive positive, zero]
    obtain widthsAre | widthsAre | ⟨n, d, q, widthsAre⟩ := widthsLength.cases
    · simp [widthsAre, UnpackedFloat.isFinite]
    · exact absurd (positive_of_infinity widthsAre) positive
    · simp [widthsAre, UnpackedFloat.isFinite]

/-- Gaps below `2 ^ k` have a finite ratio to whatever width is not zero. -/
theorem isFinite_opennessRatio (gapsBelow : Below k (value gaps)) (widthsSize : RootSized widths)
    (least : 0 ≤ k) (most : k ≤ 433) :
    Scalar.isFinite (opennessRatio gaps widths) = true := by
  by_cases positive : Scalar.lt 0.0 widths = true
  · rw [opennessRatio_of_positive positive]
    obtain zero | sizable := widthsSize
    · exact absurd zero (value_ne_zero positive _)
    · have below := Sizable.div_below gapsBelow sizable (by omega)
      exact (below.stored (by omega) (by omega)).isFinite
  · rw [opennessRatio_of_not_positive positive]
    decide +kernel

end Ratios

/-! ## Distances in the image plane -/

section Distances

variable {p q : Point3 Float}

def Point3.Near (p : Point3 Float) : Prop :=
  Scalar.le (Scalar.abs p.x) 1e120 = true ∧ Scalar.le (Scalar.abs p.y) 1e120 = true

instance (p : Point3 Float) : Decidable p.Near := inferInstanceAs (Decidable (_ ∧ _))

theorem below_of_near {x : Float} (finite : Scalar.isFinite x = true)
    (near : Scalar.le (Scalar.abs x) 1e120 = true) : Below 399 (value x) := by
  have below := (le_iff.mp near).2.2
  have bound : level (value 1e120) < toLex (1, toLex (347, 0)) := by decide +kernel
  rw [level_abs (isNaN_of_isFinite finite)] at below
  have less := below.trans_lt bound
  obtain ⟨sign, known⟩ | ⟨sign, mantissa, exponent, positive, known⟩ := finite_cases finite
  · rw [known]
    trivial
  · obtain ⟨short, -⟩ := short_of_value known
    rw [known] at less ⊢
    simp [level, UnpackedFloat.abs, Prod.Lex.toLex_lt_toLex] at less
    refine ⟨by omega, short.trans_le (Nat.pow_le_pow_right Nat.two_pos (by omega))⟩

section Planar

variable (pFinite : p.isFinite = true) (qFinite : q.isFinite = true)
include pFinite qFinite

theorem length_radicand : Length (Scalar.square (p.x - q.x) + Scalar.square (p.y - q.y)) := by
  simp only [Point3.isFinite, Bool.and_eq_true] at pFinite qFinite
  have x := length_square (isNaN_sub pFinite.1.1 qFinite.1.1)
  have y := length_square (isNaN_sub pFinite.1.2 qFinite.1.2)
  exact x.add y

theorem length_planarDistance : Length (p.planarDistance q) :=
  (length_radicand pFinite qFinite).sqrt

theorem below_radicand (pNear : p.Near) (qNear : q.Near) :
    Below (2 * 403) (value (Scalar.square (p.x - q.x) + Scalar.square (p.y - q.y))) := by
  have difference {x y : Float} (xBelow : Below 399 (value x)) (yBelow : Below 399 (value y)) :
      Below 803 (value (Scalar.square (x - y))) := by
    have apart : Below 401 (value (x - y)) :=
      (xBelow.sub yBelow (by decide)).stored (by decide) (by decide)
    exact (apart.mul_self (by decide)).stored (by decide) (by decide)
  simp only [Point3.isFinite, Bool.and_eq_true] at pFinite qFinite
  have x := difference (below_of_near pFinite.1.1 pNear.1) (below_of_near qFinite.1.1 qNear.1)
  have y := difference (below_of_near pFinite.1.2 pNear.2) (below_of_near qFinite.1.2 qNear.2)
  exact ((x.add y (by decide)).mono (by decide)).stored (by decide) (by decide)

/-- Points that are near are at a distance below `2 ^ 404`, and not at a tiny one. -/
theorem planarDistance_bounds (pNear : p.Near) (qNear : q.Near) :
    Below 404 (value (p.planarDistance q)) ∧ RootSized (p.planarDistance q) := by
  have length := length_radicand pFinite qFinite
  have below := below_radicand pFinite qFinite pNear qNear
  constructor
  · exact (below.sqrt length.unsigned (by decide)).stored (by decide) (by decide)
  · exact rootSized_sqrt length below (by decide) (by decide)

end Planar

end Distances

/-! ## Eyes -/

namespace EyeMeasure

variable {e : Eyelid Float}

/-- Gaps and width of an eyelid of numbers are lengths. -/
theorem lengths (finite : ∀ p ∈ e.points, p.isFinite = true) :
    Length (ofEyelid e).lidGaps ∧ Length (ofEyelid e).width := by
  simp only [Eyelid.points, List.forall_mem_cons] at finite
  obtain ⟨medial, upperMedial, upperLateral, lateral, lowerLateral, lowerMedial, -⟩ := finite
  constructor
  · exact (length_planarDistance upperMedial lowerMedial).add
      (length_planarDistance upperLateral lowerLateral)
  · exact length_planarDistance medial lateral

/-- Points that are near keep gaps and width far below the largest number. -/
theorem bounds (finite : ∀ p ∈ e.points, p.isFinite = true) (near : ∀ p ∈ e.points, p.Near) :
    Below 406 (value (ofEyelid e).lidGaps) ∧ Below 404 (value (ofEyelid e).width) ∧
      RootSized (ofEyelid e).width := by
  simp only [Eyelid.points, List.forall_mem_cons] at finite near
  obtain ⟨medial, upperMedial, upperLateral, lateral, lowerLateral, lowerMedial, -⟩ := finite
  obtain ⟨medialNear, upperMedialNear, upperLateralNear, lateralNear, lowerLateralNear,
    lowerMedialNear, -⟩ := near
  -- each of three distances has its bound; the gaps are the sum of two of them
  obtain ⟨nearMedial, -⟩ :=
    planarDistance_bounds upperMedial lowerMedial upperMedialNear lowerMedialNear
  obtain ⟨nearLateral, -⟩ :=
    planarDistance_bounds upperLateral lowerLateral upperLateralNear lowerLateralNear
  refine ⟨?_, planarDistance_bounds medial lateral medialNear lateralNear⟩
  exact (nearMedial.add nearLateral (by decide)).stored (by decide) (by decide)

end EyeMeasure

def EyeMeasure.both (f : Face Float) : EyeMeasure Float where
  lidGaps := (ofEyelid f.eyelidLeft).lidGaps + (ofEyelid f.eyelidRight).lidGaps
  width := (ofEyelid f.eyelidLeft).width + (ofEyelid f.eyelidRight).width

/-- The three measures whose ratios are the openness of a face. -/
def Face.eyeMeasures (f : Face Float) : List (EyeMeasure Float) :=
  [.ofEyelid f.eyelidLeft, .ofEyelid f.eyelidRight, .both f]

section Faces

variable {f : Face Float} {m : EyeMeasure Float}

theorem Face.isFinite_of_eyelid (finite : f.isFinite = true) (side : Side) :
    ∀ p ∈ (f.eyelid side).points, p.isFinite = true := by
  intro p member
  apply List.all_eq_true.mp finite
  cases side <;> simp [Face.points, Face.eyelid] at member ⊢ <;> tauto

theorem lengths_of_mem (finite : f.isFinite = true) (member : m ∈ f.eyeMeasures) :
    Length m.lidGaps ∧ Length m.width := by
  have left := EyeMeasure.lengths (Face.isFinite_of_eyelid finite .left)
  have right := EyeMeasure.lengths (Face.isFinite_of_eyelid finite .right)
  simp only [Face.eyeMeasures, List.mem_cons, List.not_mem_nil, or_false] at member
  obtain rfl | rfl | rfl := member
  · exact left
  · exact right
  · exact ⟨left.1.add right.1, left.2.add right.2⟩

theorem bounds_of_mem (finite : f.isFinite = true)
    (near : ∀ side, ∀ p ∈ (f.eyelid side).points, p.Near) (member : m ∈ f.eyeMeasures) :
    Below 408 (value m.lidGaps) ∧ RootSized m.width := by
  obtain ⟨leftGaps, leftWidth, leftSize⟩ :=
    EyeMeasure.bounds (Face.isFinite_of_eyelid finite .left) (near .left)
  obtain ⟨rightGaps, rightWidth, rightSize⟩ :=
    EyeMeasure.bounds (Face.isFinite_of_eyelid finite .right) (near .right)
  simp only [Face.eyeMeasures, List.mem_cons, List.not_mem_nil, or_false] at member
  obtain rfl | rfl | rfl := member
  · exact ⟨leftGaps.mono (by decide), leftSize⟩
  · exact ⟨rightGaps.mono (by decide), rightSize⟩
  · constructor
    · exact (leftGaps.add rightGaps (by decide)).stored (by decide) (by decide)
    · exact leftSize.add rightSize (leftWidth.add rightWidth (by decide)) (by decide)

end Faces

/-! ## Published states -/

namespace DriverState

variable {c : Circular} {model : GazeModel Float} {face : Face Float} {rateHz : Float}
variable {gaze : GazeAngle Float} {state : DriverState Float}

/-- Both models look at their angles before they give them out. -/
theorem finite_of_analytic {weights : GazeCoefficients}
    (estimated : @AnalyticGaze.estimate Float c.scalar weights face = .ok gaze) :
    gaze.isFinite = true := by
  simp only [AnalyticGaze.estimate, AnalyticGaze.estimateLandmarks] at estimated
  split at estimated
  next finite =>
    cases estimated
    exact finite
  next => cases estimated

theorem finite_of_pose {settings : PoseGaze Float}
    (estimated : @PoseGaze.estimate Float c.scalar settings face = .ok gaze) :
    gaze.isFinite = true := by
  unfold PoseGaze.estimate at estimated
  cases found : @PoseGaze.estimateWithHead Float c.scalar settings face with
  | error failure =>
    rw [found] at estimated
    cases estimated
  | ok pair =>
    rw [found] at estimated
    cases estimated
    obtain ⟨head, -, found⟩ := exists_of_bind_eq_ok found
    obtain ⟨ray, -, found⟩ := exists_of_bind_eq_ok found
    -- the last step is the look at the angles
    split at found
    next finite =>
      cases found
      exact finite
    next => cases found

/-- What a published state says of its face. -/
theorem estimate_eq_ok (estimated : @estimate Float c.scalar model face rateHz = .ok state) :
    face.isFinite = true ∧ state.gaze.isFinite = true ∧ state.eyes = .ofFace face := by
  unfold estimate at estimated
  split at estimated
  next => cases estimated
  next finite =>
    obtain ⟨gaze, seen, estimated⟩ := exists_of_bind_eq_ok estimated
    cases estimated
    refine ⟨?_, ?_, rfl⟩
    · have checked : @Face.isFinite Float c.scalar face = true := by simpa using finite
      exact checked
    · cases model with
      | analytic weights => exact finite_of_analytic seen
      | pose settings => exact finite_of_pose seen

theorem exists_of_isSome {published : Except Failure (DriverState Float)}
    (succeeds : published.toOption.isSome = true) : ∃ state, published = .ok state := by
  cases published with
  | error failure => cases succeeds
  | ok state => exact ⟨state, rfl⟩

end DriverState

/-- A published state has a finite gaze, and eyes whose openness is never negative. It is not a number
exactly if lid gaps and width have both become infinite; of points that are near it is finite, and
then eyes that do not read as closed are open at least as wide as the threshold. For the arithmetic of
the program see `Circular.scalar_runtime`. -/
theorem published_openness (c : Circular) (model : GazeModel Float) (face : Face Float)
    (rateHz : Float) (state : DriverState Float)
    (estimated : @DriverState.estimate Float c.scalar model face rateHz = .ok state) :
    state.gaze.isFinite = true ∧
    [state.eyes.left, state.eyes.right, state.eyes.combined] =
      face.eyeMeasures.map EyeMeasure.openness ∧
    (∀ m ∈ face.eyeMeasures,
      (Scalar.isNaN m.openness = true ↔
        Scalar.isFinite m.lidGaps = false ∧ Scalar.isFinite m.width = false) ∧
      (Scalar.isNaN m.openness = false → Scalar.le 0.0 m.openness = true)) ∧
    ((∀ side, ∀ p ∈ (face.eyelid side).points, p.Near) →
      (∀ m ∈ face.eyeMeasures,
        Scalar.isFinite m.openness = true ∧ Scalar.le 0.0 m.openness = true) ∧
      ∀ threshold, Scalar.isNaN threshold = false →
        state.eyes.isClosed threshold = false → Scalar.le threshold state.eyes.combined = true) := by
  obtain ⟨finite, gaze, eyes⟩ := DriverState.estimate_eq_ok estimated
  rw [eyes]
  refine ⟨gaze, rfl, ?_, ?_⟩
  · intro m member
    obtain ⟨gaps, width⟩ := lengths_of_mem finite member
    exact ⟨isNaN_opennessRatio_iff gaps width, le_opennessRatio gaps width⟩
  · intro near
    have measured (m) (member : m ∈ face.eyeMeasures) :
        Scalar.isFinite m.openness = true ∧ Scalar.le 0.0 m.openness = true := by
      obtain ⟨gaps, width⟩ := lengths_of_mem finite member
      obtain ⟨gapsBelow, widthSize⟩ := bounds_of_mem finite near member
      have bounded := isFinite_opennessRatio gapsBelow widthSize (by decide) (by decide)
      exact ⟨bounded, le_opennessRatio gaps width (isNaN_of_isFinite bounded)⟩
    refine ⟨measured, fun threshold number notClosed => ?_⟩
    -- a finite number that is not below the threshold is at or above it
    have combined := (measured (.both face) (by simp [Face.eyeMeasures])).1
    exact le_of_not_less (isNaN_of_isFinite combined) number (Bool.not_eq_true _ ▸ notClosed)

def Face.stretched (far : Float) : Face Float :=
  let eyelid (medial lateral lid : Float) : Eyelid Float :=
    ⟨⟨medial, 0.5, 0.0⟩, ⟨0.5, 0.5 - lid, 0.0⟩, ⟨0.5, 0.5 - lid, 0.0⟩, ⟨lateral, 0.5, 0.0⟩,
      ⟨0.5, 0.5, 0.0⟩, ⟨0.5, 0.5, 0.0⟩⟩
  { noseTip := ⟨0.5, 0.75, 0.0⟩, chin := ⟨0.5, 1.0, 0.0⟩
    mouthLeft := ⟨0.625, 0.875, 0.0⟩, mouthRight := ⟨0.375, 0.875, 0.0⟩
    eyelidLeft := eyelid 0.625 far far, eyelidRight := eyelid 0.375 0.125 0.125
    pupilLeft := ⟨0.75, 0.5, 0.0⟩, pupilRight := ⟨0.25, 0.5, 0.0⟩ }

/-- The distances of a corner and lids at `1e200` are infinite, those at `1e100` are not. The head is
not turned, so the angles are zero whatever arctangent is used. -/
theorem published_openness_stretched :
    let c : Circular := ⟨fun x => x, fun x => x, fun x => x, fun x _ => x⟩
    (∃ state,
      @DriverState.estimate Float c.scalar (.analytic .zero) (.stretched 1e200) 30.0 = .ok state ∧
      state.gaze.isFinite = true ∧ Scalar.isNaN state.eyes.combined = true ∧
      state.eyes.isClosed 0.2 = false) ∧
    ∃ state,
      @DriverState.estimate Float c.scalar (.analytic .zero) (.stretched 1e100) 30.0 = .ok state ∧
      Scalar.isFinite state.eyes.combined = true := by
  intro c
  constructor
  · obtain ⟨state, estimated⟩ : ∃ state, @DriverState.estimate Float c.scalar (.analytic .zero)
        (.stretched 1e200) 30.0 = .ok state :=
      DriverState.exists_of_isSome (by decide +kernel)
    obtain ⟨gaze, eyes, measures, -⟩ := published_openness c _ _ _ state estimated
    simp only [Face.eyeMeasures, List.map_cons, List.map_nil, List.cons.injEq, and_true] at eyes
    have both := (measures (.both (.stretched 1e200)) (by simp [Face.eyeMeasures])).1.mpr
      ⟨by decide +kernel, by decide +kernel⟩
    refine ⟨state, estimated, gaze, ?_, ?_⟩
    · rw [eyes.2.2]
      exact both
    · rw [EyeOpenness.isClosed, eyes.2.2]
      decide +kernel
  · obtain ⟨state, estimated⟩ : ∃ state, @DriverState.estimate Float c.scalar (.analytic .zero)
        (.stretched 1e100) 30.0 = .ok state :=
      DriverState.exists_of_isSome (by decide +kernel)
    obtain ⟨-, eyes, -, finite⟩ := published_openness c _ _ _ state estimated
    simp only [Face.eyeMeasures, List.map_cons, List.map_nil, List.cons.injEq, and_true] at eyes
    -- still far below where a square overflows
    have near (side : Side) : ∀ p ∈ ((Face.stretched 1e100).eyelid side).points, p.Near := by
      cases side <;> decide +kernel
    refine ⟨state, estimated, ?_⟩
    rw [eyes.2.2]
    exact ((finite near).1 (.both (.stretched 1e100)) (by simp [Face.eyeMeasures])).1

end DriverMonitor
