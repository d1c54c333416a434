import DriverMonitor.Proofs.Number.Negation
import DriverMonitor.Face.Eye
import DriverMonitor.Gaze.Features

/-! # Left and right are treated alike

A mirrored face has every x negated and the driver's sides exchanged. Its eyes are as open as those of
the face, side for side, and its features differ from those of the face only in the signs of the
horizontal ones that have a direction.

What is computed of both faces is followed step by step: `Mirrored` relates points whose heights are
equal and whose x are opposite, and arithmetic keeps the relation. Lengths of mirrored points are equal,
so what divides is the same in both faces, up to the order in which its two sides are added.
-/

namespace DriverMonitor

open Number

/-! ## Mirrored faces -/

def Point3.mirror (p : Point3 Float) : Point3 Float := { p with x := -p.x }

def Eyelid.mirror (e : Eyelid Float) : Eyelid Float where
  medialCorner := e.medialCorner.mirror
  upperMedial := e.upperMedial.mirror
  upperLateral := e.upperLateral.mirror
  lateralCorner := e.lateralCorner.mirror
  lowerLateral := e.lowerLateral.mirror
  lowerMedial := e.lowerMedial.mirror

def Face.mirror (f : Face Float) : Face Float where
  noseTip := f.noseTip.mirror
  chin := f.chin.mirror
  mouthLeft := f.mouthRight.mirror
  mouthRight := f.mouthLeft.mirror
  eyelidLeft := f.eyelidRight.mirror
  eyelidRight := f.eyelidLeft.mirror
  pupilLeft := f.pupilRight.mirror
  pupilRight := f.pupilLeft.mirror

/-! ## Mirrored points -/

structure Point2.Mirrored (p q : Point2 Float) : Prop where
  x : Opposite p.x q.x
  y : p.y = q.y

structure Point3.Mirrored (p q : Point3 Float) : Prop where
  xy : p.xy.Mirrored q.xy
  z : p.z = q.z

namespace Point2

variable {p q p' q' : Point2 Float}

theorem mirrored_zero : (zero : Point2 Float).Mirrored zero :=
  ⟨.inr (by decide +kernel), rfl⟩

theorem Mirrored.add (left : p.Mirrored p') (right : q.Mirrored q') :
    (p + q).Mirrored (p' + q') := by
  constructor
  · exact left.x.add right.x
  · show p.y + q.y = p'.y + q'.y
    rw [left.y, right.y]

theorem Mirrored.sub (left : p.Mirrored p') (right : q.Mirrored q') :
    (p - q).Mirrored (p' - q') := by
  constructor
  · exact left.x.sub right.x
  · show p.y - q.y = p'.y - q'.y
    rw [left.y, right.y]

theorem Mirrored.div (mirrored : p.Mirrored p') (s : Float) : (p / s).Mirrored (p' / s) := by
  constructor
  · exact mirrored.x.div s
  · show p.y / s = p'.y / s
    rw [mirrored.y]

/-- The sign of x is lost in its square. -/
theorem Mirrored.norm_eq (mirrored : p.Mirrored p') : p.norm = p'.norm := by
  rw [norm, norm, mirrored.x.square_eq, mirrored.y]

theorem add_comm (p q : Point2 Float) : p + q = q + p := by
  show mk (p.x + q.x) (p.y + q.y) = mk (q.x + p.x) (q.y + p.y)
  rw [float_add_comm p.x, float_add_comm p.y]

theorem midpoint_comm (p q : Point2 Float) : p.midpoint q = q.midpoint p := by
  rw [midpoint, midpoint, add_comm]

theorem Mirrored.midpoint (left : p.Mirrored p') (right : q.Mirrored q') :
    (p.midpoint q).Mirrored (p'.midpoint q') :=
  (left.add right).div 2.0

end Point2

namespace Point3

variable {p q p' q' : Point3 Float}

theorem Mirrored.x (mirrored : p.Mirrored p') : Opposite p.x p'.x := mirrored.xy.x

theorem Mirrored.y (mirrored : p.Mirrored p') : p.y = p'.y := mirrored.xy.y

/-- Mirroring negates x, so nothing is rounded. -/
theorem mirrored_mirror (p : Point3 Float) : p.mirror.Mirrored p := ⟨⟨.of_neg p.x, rfl⟩, rfl⟩

theorem xy_sub (p q : Point3 Float) : (p - q).xy = p.xy - q.xy := rfl

theorem xy_midpoint (p q : Point3 Float) : (p.midpoint q).xy = p.xy.midpoint q.xy := rfl

theorem Mirrored.sub (left : p.Mirrored p') (right : q.Mirrored q') :
    (p - q).Mirrored (p' - q') := by
  constructor
  · rw [xy_sub, xy_sub]
    exact left.xy.sub right.xy
  · show p.z - q.z = p'.z - q'.z
    rw [left.z, right.z]

theorem Mirrored.norm_eq (mirrored : p.Mirrored p') : p.norm = p'.norm := by
  rw [norm, norm, mirrored.x.square_eq, mirrored.y, mirrored.z]

theorem Mirrored.distance_eq (left : p.Mirrored p') (right : q.Mirrored q') :
    p.distance q = p'.distance q' :=
  (left.sub right).norm_eq

theorem Mirrored.planarDistance_eq (left : p.Mirrored p') (right : q.Mirrored q') :
    p.planarDistance q = p'.planarDistance q' :=
  (left.xy.sub right.xy).norm_eq

/-- Differences that are taken the other way round have the same squares. -/
theorem distance_comm (p q : Point3 Float) : p.distance q = q.distance p := by
  show Scalar.sqrt (Scalar.square (p.x - q.x) + Scalar.square (p.y - q.y) +
      Scalar.square (p.z - q.z)) =
    Scalar.sqrt (Scalar.square (q.x - p.x) + Scalar.square (q.y - p.y) +
      Scalar.square (q.z - p.z))
  rw [(Opposite.sub_swap p.x q.x).square_eq, (Opposite.sub_swap p.y q.y).square_eq,
    (Opposite.sub_swap p.z q.z).square_eq]

theorem midpoint_comm (p q : Point3 Float) : p.midpoint q = q.midpoint p := by
  show mk ((p.x + q.x) / 2.0) ((p.y + q.y) / 2.0) ((p.z + q.z) / 2.0) =
    mk ((q.x + p.x) / 2.0) ((q.y + p.y) / 2.0) ((q.z + p.z) / 2.0)
  rw [float_add_comm p.x, float_add_comm p.y, float_add_comm p.z]

theorem Mirrored.midpoint (left : p.Mirrored p') (right : q.Mirrored q') :
    (p.midpoint q).Mirrored (p'.midpoint q') := by
  constructor
  · rw [xy_midpoint, xy_midpoint]
    exact left.xy.midpoint right.xy
  · show (p.z + q.z) / 2.0 = (p'.z + q'.z) / 2.0
    rw [left.z, right.z]

end Point3

/-! ## Eyes -/

/-- Gaps and width are made of distances, which a mirror keeps. -/
theorem EyeMeasure.ofEyelid_mirror (e : Eyelid Float) :
    EyeMeasure.ofEyelid e.mirror = EyeMeasure.ofEyelid e := by
  have distance (p q : Point3 Float) : p.mirror.planarDistance q.mirror = p.planarDistance q :=
    p.mirrored_mirror.planarDistance_eq q.mirrored_mirror
  simp only [EyeMeasure.ofEyelid, Eyelid.mirror, distance]

/-- The sides change places, and sums over both do not depend on the order. -/
theorem EyeOpenness.ofFace_mirror (f : Face Float) :
    EyeOpenness.ofFace f.mirror =
      ⟨(EyeOpenness.ofFace f).right, (EyeOpenness.ofFace f).left, (EyeOpenness.ofFace f).combined⟩ := by
  have left : EyeMeasure.ofEyelid f.mirror.eyelidLeft = EyeMeasure.ofEyelid f.eyelidRight :=
    EyeMeasure.ofEyelid_mirror f.eyelidRight
  have right : EyeMeasure.ofEyelid f.mirror.eyelidRight = EyeMeasure.ofEyelid f.eyelidLeft :=
    EyeMeasure.ofEyelid_mirror f.eyelidLeft
  simp only [EyeOpenness.ofFace, left, right]
  congr 2
  · exact float_add_comm _ _
  · exact float_add_comm _ _

/-! ## Features -/

namespace GazeLandmarks

/-- Landmarks of a face and of its mirror image, sides exchanged. The distance between the medial
corners divides, so these have to be opposite exactly. -/
structure Mirrored (m g : GazeLandmarks Float) : Prop where
  eyesMidpoint : m.eyesMidpoint.Mirrored g.eyesMidpoint
  noseBase : m.noseBase.Mirrored g.noseBase
  medialLeft : m.medialLeft = g.medialRight.mirror
  medialRight : m.medialRight = g.medialLeft.mirror
  limbusLeft : m.limbusLeft.centre.Mirrored g.limbusRight.centre
  limbusRight : m.limbusRight.centre.Mirrored g.limbusLeft.centre

variable {m g : GazeLandmarks Float}

theorem mirrored_centre (p : Point3 Float) :
    (Limbus.replicate p.mirror).centre.Mirrored (Limbus.replicate p).centre := by
  have here := p.mirrored_mirror.xy
  exact ((((Point2.mirrored_zero.add here).add here).add here).add here).div 4.0

/-- What the calibrated model reads of a mirrored face mirrors what it reads of the face. -/
theorem mirrored_ofFace (f : Face Float) : Mirrored (.ofFace f.mirror) (.ofFace f) where
  eyesMidpoint := by
    have sides := (f.medialCorner .left).mirrored_mirror.midpoint
      (f.medialCorner .right).mirrored_mirror
    rwa [Point3.midpoint_comm] at sides
  noseBase := f.noseTip.mirrored_mirror
  medialLeft := rfl
  medialRight := rfl
  limbusLeft := mirrored_centre f.pupilRight
  limbusRight := mirrored_centre f.pupilLeft

theorem Mirrored.faceScale_eq (mirrored : Mirrored m g) : m.faceScale = g.faceScale := by
  have corners := g.medialRight.mirrored_mirror.distance_eq g.medialLeft.mirrored_mirror
  rw [faceScale, faceScale, mirrored.eyesMidpoint.distance_eq mirrored.noseBase,
    mirrored.medialLeft, mirrored.medialRight, corners, Point3.distance_comm g.medialRight]

theorem mirrored_irisOffset {scale : Point2 Float} {p q : Point3 Float} {l k : Limbus Float}
    (medial : p.Mirrored q) (limbus : l.centre.Mirrored k.centre) :
    (irisOffset scale p l).Mirrored (irisOffset scale q k) := by
  have offset := medial.xy.sub limbus
  constructor
  · exact offset.x.div scale.x
  · show (p.xy - l.centre).y / scale.y = (q.xy - k.centre).y / scale.y
    rw [offset.y]

theorem Mirrored.pupilOffset (mirrored : Mirrored m g) : m.pupilOffset.Mirrored g.pupilOffset := by
  rw [GazeLandmarks.pupilOffset, GazeLandmarks.pupilOffset, mirrored.faceScale_eq,
    mirrored.medialLeft, mirrored.medialRight, Point2.midpoint_comm]
  exact (mirrored_irisOffset g.medialLeft.mirrored_mirror mirrored.limbusRight).midpoint
    (mirrored_irisOffset g.medialRight.mirrored_mirror mirrored.limbusLeft)

def tangents (g : GazeLandmarks Float) : Point2 Float where
  x := (g.medialLeft.z - g.medialRight.z) / (g.medialLeft.x - g.medialRight.x)
  y := (g.eyesMidpoint.z - g.noseBase.z) / (g.eyesMidpoint.y - g.noseBase.y)

/-- With the sides, depths and places are exchanged; the places change their signs besides. -/
theorem Mirrored.tangents (mirrored : Mirrored m g) : m.tangents.Mirrored g.tangents := by
  constructor
  · show Opposite ((m.medialLeft.z - m.medialRight.z) / (m.medialLeft.x - m.medialRight.x))
      ((g.medialLeft.z - g.medialRight.z) / (g.medialLeft.x - g.medialRight.x))
    rw [mirrored.medialLeft, mirrored.medialRight]
    show Opposite ((g.medialRight.z - g.medialLeft.z) / (-g.medialRight.x - -g.medialLeft.x)) _
    rw [float_neg_sub_neg]
    exact (Opposite.sub_swap g.medialRight.z g.medialLeft.z).div _
  · show (m.eyesMidpoint.z - m.noseBase.z) / (m.eyesMidpoint.y - m.noseBase.y) =
      (g.eyesMidpoint.z - g.noseBase.z) / (g.eyesMidpoint.y - g.noseBase.y)
    rw [mirrored.eyesMidpoint.y, mirrored.noseBase.y, mirrored.eyesMidpoint.z, mirrored.noseBase.z]

end GazeLandmarks

namespace GazeFeatures

def under (c : Circular) (f : Face Float) : GazeFeatures Float :=
  @ofLandmarks Float c.scalar (@GazeLandmarks.ofFace Float c.scalar f)

/-- Under the functions of the runtime these are the features that the program computes. -/
theorem under_runtime (f : Face Float) : under .runtime f = ofLandmarks (.ofFace f) := by
  rw [under, Circular.scalar_runtime]

/-- The circular functions enter the rotation only. -/
theorem under_eq (c : Circular) (f : Face Float) :
    under c f =
      let g := GazeLandmarks.ofFace f
      { horizontal := ⟨1.0, c.atan g.tangents.x, g.pupilOffset.x, g.faceScale.x, g.eyesMidpoint.x⟩
        vertical := ⟨1.0, c.atan g.tangents.y, g.pupilOffset.y, g.faceScale.y, g.eyesMidpoint.y⟩ } :=
  rfl

end GazeFeatures

/-- Eyes and features of a mirrored face are those of the face with its sides exchanged. The program's
features are among these, by `GazeFeatures.under_runtime`. -/
theorem sides_are_treated_alike (c : Circular) (odd : IsOdd c.atan) (f : Face Float) :
    EyeOpenness.ofFace f.mirror =
      ⟨(EyeOpenness.ofFace f).right, (EyeOpenness.ofFace f).left, (EyeOpenness.ofFace f).combined⟩ ∧
    (∀ threshold, (EyeOpenness.ofFace f.mirror).isClosed threshold =
      (EyeOpenness.ofFace f).isClosed threshold) ∧
    (GazeFeatures.under c f.mirror).vertical = (GazeFeatures.under c f).vertical ∧
    let mirrored := (GazeFeatures.under c f.mirror).horizontal
    let features := (GazeFeatures.under c f).horizontal
    mirrored.bias = 1.0 ∧ features.bias = 1.0 ∧
      Opposite mirrored.rotation features.rotation ∧
      Opposite mirrored.pupil features.pupil ∧
      mirrored.scale = features.scale ∧
      Opposite mirrored.centre features.centre := by
  have eyes := EyeOpenness.ofFace_mirror f
  have landmarks := GazeLandmarks.mirrored_ofFace f
  refine ⟨eyes, ?_, ?_, ?_⟩
  · intro threshold
    rw [EyeOpenness.isClosed, EyeOpenness.isClosed, eyes]
  · simp only [GazeFeatures.under_eq]
    rw [landmarks.tangents.y, landmarks.pupilOffset.y, landmarks.faceScale_eq,
      landmarks.eyesMidpoint.y]
  · simp only [GazeFeatures.under_eq]
    rw [landmarks.faceScale_eq]
    refine ⟨trivial, trivial, ?_, landmarks.pupilOffset.x, rfl, landmarks.eyesMidpoint.x⟩
    -- only the rotation goes through the arctangent
    exact odd _ _ landmarks.tangents.x

/-- The right eye is closed, and the head is turned so little that an angle is its own tangent. -/
theorem winking_face_mirrored :
    let eyelid (x z lid : Float) (lateral : Float) : Eyelid Float :=
      ⟨⟨x, 0.5, z⟩, ⟨x + lateral, 0.5 - lid, 0.0⟩, ⟨x + lateral, 0.5 - lid, 0.0⟩,
        ⟨x + 2.0 * lateral, 0.5, 0.0⟩, ⟨x + lateral, 0.5, 0.0⟩, ⟨x + lateral, 0.5, 0.0⟩⟩
    let f : Face Float :=
      { noseTip := ⟨0.5, 0.75, 0.0⟩, chin := ⟨0.5, 1.0, 0.0⟩
        mouthLeft := ⟨0.625, 0.875, 0.0⟩, mouthRight := ⟨0.375, 0.875, 0.0⟩
        eyelidLeft := eyelid 0.625 1e-10 0.0625 0.125
        eyelidRight := eyelid 0.375 0.0 0.0 (-0.125)
        pupilLeft := ⟨0.75, 0.5, 0.0⟩, pupilRight := ⟨0.375, 0.5, 0.0⟩ }
    let c : Circular := ⟨fun x => x, fun x => x, fun x => x, fun x _ => x⟩
    EyeOpenness.ofFace f.mirror = ⟨0.0, 0.5, 0.25⟩ ∧
      (EyeOpenness.ofFace f.mirror).isClosed 0.3 = true ∧
      Alike (GazeFeatures.under c f.mirror).horizontal.rotation (-4e-10) ∧
      Alike (GazeFeatures.under c f.mirror).horizontal.pupil 0.25 := by
  intro eyelid f c
  obtain ⟨eyes, closed, -, -, -, rotation, pupil, -, -⟩ :=
    sides_are_treated_alike c (fun _ _ opposite => opposite) f
  refine ⟨?_, ?_, ?_, ?_⟩
  · rw [eyes]
    decide +kernel
  · rw [closed]
    decide +kernel
  · refine rotation.trans (.inr ?_)
    decide +kernel
  · refine pupil.trans (.inr ?_)
    decide +kernel

end DriverMonitor
