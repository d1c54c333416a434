import DriverMonitor.Proofs.Number.Double

/-! # Negation

Rounding never looks at a sign, so negation passes through every operation. Only a zero can come out
with another sign than it would have had: differences of equal numbers are positive zeros, whichever
is subtracted from which. So numbers are compared by `Alike`, which does not tell zeros apart, and
`Opposite` is what is left of being the negation of one another.

A square forgets the sign for good, and so do `(-y) - (-x)` and `x - y`: these are equal, not just
alike, so they may stand below a fraction line.
-/

namespace DriverMonitor.Number

open Float.Model (Format UnpackedFloat)
open Float.Model.UnpackedFloat (Sign Accuracy)

/-- Equal up to the sign of a zero; what is not a number is like any other that is none. -/
def Alike (x y : Float) : Prop :=
  Scalar.isNaN x = true ∧ Scalar.isNaN y = true ∨ Scalar.le x y = true ∧ Scalar.le y x = true

def Opposite (x y : Float) : Prop := Alike x (-y)

def IsOdd (f : Float → Float) : Prop := ∀ x y, Opposite x y → Opposite (f x) (f y)

/-! ## Negated results -/

section Results

variable {format : Format} {u v w u' v' : UnpackedFloat}

theorem sign_neg_neg (s : Sign) : - -s = s := by cases s <;> rfl

theorem sign_apply_neg (s : Sign) (n : Int) : (-s).apply n = -s.apply n := by
  cases s with
  | negative => exact (Int.neg_neg n).symm
  | positive => rfl

theorem sign_neg_div (s t : Sign) : -s / t = -(s / t) := by cases s <;> cases t <;> rfl

theorem unpacked_neg_neg (u : UnpackedFloat) : u.neg.neg = u := by
  cases u <;> simp [UnpackedFloat.neg, sign_neg_neg]

theorem unpack_packComponents_neg (s : Sign) (exponent : BitVec Format.binary64.exponentBits)
    (mantissa : BitVec Format.binary64.mantissaBitsWithoutImplicit) :
    UnpackedFloat.unpack .binary64 (UnpackedFloat.packComponents .binary64 (-s) exponent mantissa) =
      (UnpackedFloat.unpack .binary64
        (UnpackedFloat.packComponents .binary64 s exponent mantissa)).neg := by
  rw [unpack_packComponents, unpack_packComponents]
  split
  · split <;> rfl
  · split
    · split <;> rfl
    · rfl

/-- Storing treats both signs alike. -/
theorem stored_neg (u : UnpackedFloat) : stored u.neg = (stored u).neg := by
  cases u with
  | notANumber => simp [UnpackedFloat.neg]
  | infinity s => simp [UnpackedFloat.neg]
  | zero s => simp [UnpackedFloat.neg]
  | finite s mantissa exponent positive =>
    simp only [stored, UnpackedFloat.neg, UnpackedFloat.pack, UnpackedFloat.packedInfinity]
    split
    · exact unpack_packComponents_neg _ _ _
    · split <;> exact unpack_packComponents_neg _ _ _

/-- So does rounding, which goes to the nearest, and to even in the middle. -/
theorem roundWithAccuracy_neg (s : Sign) (mantissa : Nat) (exponent : Int) (accuracy : Accuracy) :
    UnpackedFloat.roundWithAccuracy format (-s) mantissa exponent accuracy =
      (UnpackedFloat.roundWithAccuracy format s mantissa exponent accuracy).neg := by
  simp only [UnpackedFloat.roundWithAccuracy]
  split <;> rfl

def plain : UnpackedFloat → UnpackedFloat
  | .zero _ => .zero .positive
  | u => u

/-- Nothing but the sign of a zero is lost. -/
theorem plain_eq_iff : plain u = plain v ↔ u = v ∨ ∃ s t, u = .zero s ∧ v = .zero t := by
  cases u <;> cases v <;> simp [plain]

theorem isNaN_of_plain (same : plain u = plain v) : u.isNaN = v.isNaN := by
  obtain rfl | ⟨s, t, rfl, rfl⟩ := plain_eq_iff.mp same <;> rfl

/-- Numbers share a place if they are the same but for the sign of a zero. -/
theorem level_eq_iff (uNumber : u.isNaN = false) (vNumber : v.isNaN = false) :
    level u = level v ↔ plain u = plain v := by
  rcases u with (_ | _) | _ | (_ | _) | ⟨(_ | _), _, _, _⟩ <;>
    rcases v with (_ | _) | _ | (_ | _) | ⟨(_ | _), _, _, _⟩ <;>
      simp_all [level, plain, UnpackedFloat.isNaN]
  all_goals tauto

theorem plain_neg (same : plain u = plain v) : plain u.neg = plain v.neg := by
  obtain rfl | ⟨s, t, rfl, rfl⟩ := plain_eq_iff.mp same <;> rfl

theorem plain_stored (same : plain u = plain v) : plain (stored u) = plain (stored v) := by
  obtain rfl | ⟨s, t, rfl, rfl⟩ := plain_eq_iff.mp same
  · rfl
  · simp [plain]

theorem plain_normalize_neg (mantissa exponent : Int) :
    plain (UnpackedFloat.normalize format (-mantissa) exponent .positive) =
      plain (UnpackedFloat.normalize format mantissa exponent .positive).neg := by
  simp only [UnpackedFloat.normalize, UnpackedFloat.round]
  rcases lt_trichotomy mantissa 0 with negative | rfl | positive
  · rw [Int.compare_eq_lt.mpr negative, Int.compare_eq_gt.mpr (Int.neg_pos_of_neg negative)]
    exact congrArg plain (roundWithAccuracy_neg .negative _ _ _)
  · rfl
  · rw [Int.compare_eq_gt.mpr positive, Int.compare_eq_lt.mpr (Int.neg_neg_of_pos positive),
      Int.neg_neg]
    exact congrArg plain (roundWithAccuracy_neg .positive _ _ _)

theorem unpacked_add_comm (u v : UnpackedFloat) :
    UnpackedFloat.add format u v = UnpackedFloat.add format v u := by
  cases u <;> cases v <;> simp only [UnpackedFloat.add]
  case infinity.infinity s t | zero.zero s t => cases s <;> cases t <;> rfl
  case finite.finite => rw [min_comm, Int.add_comm]

/-- The sign of a zero shows in a sum only if the sum is zero. -/
theorem plain_add (left : plain u = plain u') (right : plain v = plain v') :
    plain (UnpackedFloat.add format u v) = plain (UnpackedFloat.add format u' v') := by
  -- a zero is either swallowed or added to another zero
  have absorbed (s t : Sign) (w : UnpackedFloat) :
      plain (UnpackedFloat.add format (.zero s) w) = plain (UnpackedFloat.add format (.zero t) w) := by
    cases w with
    | zero r => cases s <;> cases t <;> cases r <;> rfl
    | _ => rfl
  obtain rfl | ⟨s, t, rfl, rfl⟩ := plain_eq_iff.mp left
  · obtain rfl | ⟨s, t, rfl, rfl⟩ := plain_eq_iff.mp right
    · rfl
    · rw [unpacked_add_comm, absorbed s t, unpacked_add_comm]
  · obtain rfl | ⟨s', t', rfl, rfl⟩ := plain_eq_iff.mp right
    · exact absorbed s t v
    · rw [absorbed s t, unpacked_add_comm, absorbed s' t', unpacked_add_comm]

/-- A sum that cancels is zero with a sign of its own, so only `plain` results agree. -/
theorem plain_add_neg (u v : UnpackedFloat) :
    plain (UnpackedFloat.add format u.neg v.neg) = plain (UnpackedFloat.add format u v).neg := by
  cases u <;> cases v <;> simp only [UnpackedFloat.add, UnpackedFloat.neg]
  case infinity.infinity s t | zero.zero s t => cases s <;> cases t <;> rfl
  case finite.finite =>
    rw [sign_apply_neg, sign_apply_neg, ← Int.neg_add, plain_normalize_neg]
    rfl

theorem unpacked_sub_eq_add_neg (u v : UnpackedFloat) :
    UnpackedFloat.sub format u v = UnpackedFloat.add format u v.neg := by
  cases u <;> cases v <;> simp only [UnpackedFloat.add, UnpackedFloat.sub, UnpackedFloat.neg]
  case finite.finite => rw [sign_apply_neg, Int.sub_eq_add_neg]

theorem unpacked_div_neg (u v : UnpackedFloat) :
    UnpackedFloat.div format u.neg v = (UnpackedFloat.div format u v).neg := by
  cases u <;> cases v <;>
    simp only [UnpackedFloat.div, UnpackedFloat.neg, sign_neg_div, roundWithAccuracy_neg]

/-- The sign of a dividend of zero shows in the quotient only if that is zero. -/
theorem plain_div (same : plain u = plain v) :
    plain (UnpackedFloat.div format u w) = plain (UnpackedFloat.div format v w) := by
  obtain rfl | ⟨s, t, rfl, rfl⟩ := plain_eq_iff.mp same
  · rfl
  · cases w <;> rfl

theorem unpacked_mul_neg_self (u : UnpackedFloat) :
    UnpackedFloat.mul format u.neg u.neg = UnpackedFloat.mul format u u := by
  have square (s : Sign) : -s * -s = s * s := by cases s <;> rfl
  cases u <;> simp only [UnpackedFloat.mul, UnpackedFloat.neg, square]

theorem mul_self_of_plain (same : plain u = plain v) :
    UnpackedFloat.mul format u u = UnpackedFloat.mul format v v := by
  obtain rfl | ⟨s, t, rfl, rfl⟩ := plain_eq_iff.mp same
  · rfl
  · cases s <;> cases t <;> rfl

end Results

/-! ## Laws that hold exactly -/

section Exact

variable (x y : Float)

theorem value_neg_eq : value (-x) = (value x).neg := by
  rw [value_neg, stored_neg, stored_value]

theorem float_neg_neg : - -x = x := by
  rw [← value_inj, value_neg_eq, value_neg_eq, unpacked_neg_neg]

theorem float_add_comm : x + y = y + x := by
  rw [← value_inj, value_add, value_add, unpacked_add_comm]

/-- To subtract is to add the negation, to the last bit. -/
theorem float_sub_eq_add_neg : x - y = x + -y := by
  rw [← value_inj, value_sub, value_add, value_neg_eq, unpacked_sub_eq_add_neg]

theorem float_neg_sub_neg : -y - -x = x - y := by
  rw [float_sub_eq_add_neg, float_neg_neg, float_add_comm, float_sub_eq_add_neg]

theorem float_neg_div : -x / y = -(x / y) := by
  rw [← value_inj, value_neg_eq, value_div, value_div, value_neg_eq, unpacked_div_neg, stored_neg]

theorem square_neg : Scalar.square (-x) = Scalar.square x := by
  rw [Scalar.square, ← value_inj, value_mul, value_neg_eq, unpacked_mul_neg_self]
  rfl

end Exact

/-! ## Alike and opposite -/

section Relations

variable {x y z x' y' : Float}

theorem alike_iff : Alike x y ↔ plain (value x) = plain (value y) := by
  rw [Alike, le_iff, le_iff, isNaN_eq, isNaN_eq]
  constructor
  · rintro (⟨xUndefined, yUndefined⟩ | ⟨⟨xNumber, yNumber, below⟩, -, -, above⟩)
    · rw [UnpackedFloat.isNaN_iff.mp xUndefined, UnpackedFloat.isNaN_iff.mp yUndefined]
    · exact (level_eq_iff xNumber yNumber).mp (le_antisymm below above)
  · intro same
    rw [isNaN_of_plain same]
    cases undefined : (value y).isNaN with
    | true => exact .inl ⟨rfl, rfl⟩
    | false =>
      have level := (level_eq_iff ((isNaN_of_plain same).trans undefined) undefined).mpr same
      exact .inr ⟨⟨rfl, rfl, level.le⟩, rfl, rfl, level.ge⟩

namespace Alike

theorem refl (x : Float) : Alike x x := alike_iff.mpr rfl

theorem trans (first : Alike x y) (second : Alike y z) : Alike x z :=
  alike_iff.mpr ((alike_iff.mp first).trans (alike_iff.mp second))

theorem add (left : Alike x x') (right : Alike y y') : Alike (x + y) (x' + y') := by
  rw [alike_iff] at left right ⊢
  exact plain_stored (plain_add left right)

theorem neg (alike : Alike x y) : Alike (-x) (-y) := by
  rw [alike_iff] at alike ⊢
  rw [value_neg_eq, value_neg_eq]
  exact plain_neg alike

theorem div (alike : Alike x x') (y : Float) : Alike (x / y) (x' / y) := by
  rw [alike_iff] at alike ⊢
  exact plain_stored (plain_div alike)

theorem square_eq (alike : Alike x y) : Scalar.square x = Scalar.square y := by
  rw [alike_iff] at alike
  rw [Scalar.square, Scalar.square, ← value_inj, value_mul, value_mul, mul_self_of_plain alike]

end Alike

theorem alike_neg_add (x y : Float) : Alike (-x + -y) (-(x + y)) := by
  rw [alike_iff, value_neg_eq, value_add, value_add, value_neg_eq, value_neg_eq, ← stored_neg]
  exact plain_stored (plain_add_neg _ _)

namespace Opposite

theorem of_neg (x : Float) : Opposite (-x) x := Alike.refl (-x)

theorem add (left : Opposite x x') (right : Opposite y y') : Opposite (x + y) (x' + y') :=
  (Alike.add left right).trans (alike_neg_add x' y')

theorem neg (opposite : Opposite x y) : Opposite (-x) (-y) := Alike.neg opposite

theorem sub (left : Opposite x x') (right : Opposite y y') : Opposite (x - y) (x' - y') := by
  rw [float_sub_eq_add_neg, float_sub_eq_add_neg]
  exact left.add right.neg

/-- Which of two numbers is subtracted only decides the sign. -/
theorem sub_swap (x y : Float) : Opposite (x - y) (y - x) := by
  have opposite := (of_neg y).sub (of_neg x)
  rwa [float_neg_sub_neg] at opposite

theorem div (opposite : Opposite x x') (y : Float) : Opposite (x / y) (x' / y) := by
  rw [Opposite, ← float_neg_div]
  exact Alike.div opposite y

theorem square_eq (opposite : Opposite x y) : Scalar.square x = Scalar.square y := by
  rw [Alike.square_eq opposite, square_neg]

end Opposite

end Relations

end DriverMonitor.Number
