import Mathlib
import DriverMonitor.Geometry.Scalar

/-! # Double precision by what its numbers stand for

An operation on `Float` calculates with what its operands stand for and stores the result as a word:
`value_add` and its siblings. Storing keeps a sign, a zero, an infinity and what is not a number, and
may turn a result that is too large into an infinity.

Two consequences are used far from here. Sums, differences and products are finite only if both
operands are, so one infinite coordinate spoils whatever is summed up from it. And numbers are compared
by a `level`, so that comparisons of numbers have the laws of a linear order; what is not a number is
in no relation to anything.
-/

namespace DriverMonitor.Number

open Float.Model (Format UnpackedFloat)
open Float.Model.UnpackedFloat (Sign unpackExponent)

def value (x : Float) : UnpackedFloat := x.toModel.unpack

def stored (u : UnpackedFloat) : UnpackedFloat :=
  UnpackedFloat.unpack .binary64 (UnpackedFloat.pack .binary64 u)

section Operations

variable (x y : Float)

/-- A result is the exact one, rounded and then stored; so it is for the other operations. -/
theorem value_add : value (x + y) = stored (.add .binary64 (value x) (value y)) := rfl

theorem value_sub : value (x - y) = stored (.sub .binary64 (value x) (value y)) := rfl

theorem value_mul : value (x * y) = stored (.mul .binary64 (value x) (value y)) := rfl

theorem value_div : value (x / y) = stored (.div .binary64 (value x) (value y)) := rfl

theorem value_neg : value (-x) = stored (value x).neg := rfl

theorem value_sqrt : value (Float.sqrt x) = stored (.sqrt .binary64 (value x)) := rfl

theorem isFinite_eq : Scalar.isFinite x = (value x).isFinite := rfl

theorem isNaN_eq : Scalar.isNaN x = (value x).isNaN := rfl

theorem lt_eq : Scalar.lt x y = (value x).lt (value y) :=
  (Bool.decide_coe _).trans (Bool.decide_coe _)

theorem le_eq : Scalar.le x y = (value x).le (value y) :=
  (Bool.decide_coe _).trans (Bool.decide_coe _)

end Operations

/-- Only one word is no number, so words that stand for the same are the same. -/
theorem value_inj {x y : Float} : value x = value y ↔ x = y := by
  constructor
  · intro same
    have bits := (UnpackedFloat.unpack_inj_of_valid x.toModel.valid y.toModel.valid).mp same
    obtain ⟨⟨xBits, xValid⟩⟩ := x
    obtain ⟨⟨yBits, yValid⟩⟩ := y
    cases UInt64.toBitVec_inj.mp bits
    rfl
  · rintro rfl
    rfl

/-! ## Stored results -/

section Stored

variable {u : UnpackedFloat}

/-- What a word stands for, by its fields. -/
theorem unpack_packComponents (sign : Sign) (exponent : BitVec Format.binary64.exponentBits)
    (mantissa : BitVec Format.binary64.mantissaBitsWithoutImplicit) :
    UnpackedFloat.unpack .binary64 (UnpackedFloat.packComponents .binary64 sign exponent mantissa) =
      if exponent.toNat = 2047 then
        if mantissa.toNat = 0 then .infinity sign else .notANumber
      else if exponent.toNat = 0 then
        if h : mantissa.toNat = 0 then .zero sign
        else .finite sign mantissa.toNat (-1074) (Nat.pos_of_ne_zero h)
      else .finite sign (2 ^ 52 + mantissa.toNat) (exponent.toNat - 1075) (by positivity) := by
  have full : exponent = -1#_ ↔ exponent.toNat = 2047 := by
    rw [← BitVec.toNat_inj]
    exact Iff.rfl
  have empty : exponent = 0#_ ↔ exponent.toNat = 0 := by
    rw [← BitVec.toNat_inj]
    exact Iff.rfl
  have whole : mantissa = 0#_ ↔ mantissa.toNat = 0 := by
    rw [← BitVec.toNat_inj]
    exact Iff.rfl
  have implicit : (1#1 ++ mantissa).toNat = 2 ^ 52 + mantissa.toNat := by
    rw [BitVec.toNat_append, ← Nat.shiftLeft_add_eq_or_of_lt mantissa.isLt]
    rfl
  simp only [UnpackedFloat.unpack, UnpackedFloat.unpackExponent_packComponents,
    UnpackedFloat.unpackMantissa_packComponents, UnpackedFloat.unpackSign_packComponents,
    Sign.ofBitVec_toBitVec, full, empty, whole, implicit]
  -- the branches are those of the fields: full, empty, and with a hidden bit
  split
  · rfl
  · split
    next subnormal =>
      simp only [subnormal]
      rfl
    next => rfl

@[simp] theorem stored_notANumber : stored .notANumber = .notANumber :=
  UnpackedFloat.unpack_packedNaN

@[simp] theorem stored_zero (sign : Sign) : stored (.zero sign) = .zero sign :=
  UnpackedFloat.unpack_packedZero

@[simp] theorem stored_infinity (sign : Sign) : stored (.infinity sign) = .infinity sign := by
  cases sign <;> rfl

/-- A stored number is in the form in which a word gives it. -/
theorem stored_value (x : Float) : stored (value x) = value x :=
  congrArg (UnpackedFloat.unpack .binary64)
    (UnpackedFloat.pack_unpack_of_valid x.toModel.valid)

end Stored

/-! ## Words -/

section Words

variable {x : Float}

theorem toNat_unpackExponent_double (b : BitVec Format.binary64.numBits) :
    (unpackExponent b).toNat = b.toNat / 2 ^ 52 % 2048 := by
  simp [unpackExponent, Nat.shiftRight_eq_div_pow]

/-- Only the greatest exponent stands for infinity and for what is no number. -/
theorem exponent_of_not_isFinite {b : BitVec Format.binary64.numBits}
    (infinite : (UnpackedFloat.unpack .binary64 b).isFinite = false) :
    b.toNat / 2 ^ 52 % 2048 = 2047 := by
  have full : unpackExponent b = -1#_ := by
    apply of_not_not
    intro short
    rw [UnpackedFloat.unpack] at infinite
    simp only [if_neg short] at infinite
    split at infinite
    · split at infinite <;> cases infinite
    · cases infinite
  rw [← toNat_unpackExponent_double, full]
  rfl

/-- The word of what is no finite number is not read as one. -/
theorem read_of_not_isFinite (infinite : Scalar.isFinite x = false) :
    Layout.double.read x.toBits.toNat = .nan ∨
      ∃ negative, Layout.double.read x.toBits.toNat = .infinite negative := by
  have exponent : x.toBits.toNat / 2 ^ 52 % 2048 = 2047 := exponent_of_not_isFinite infinite
  have field : (x.toBits.toNat >>> Layout.double.mantissaBits) % (1 <<< Layout.double.exponentBits) =
      (1 <<< Layout.double.exponentBits) - 1 := by
    rw [Nat.shiftRight_eq_div_pow]
    exact exponent
  rw [Layout.read]
  simp only [if_pos field]
  split
  · exact .inr ⟨_, rfl⟩
  · exact .inl rfl

end Words

/-! ## Finite results have finite operands -/

section Finite

variable {format : Format} {u v : UnpackedFloat} {x y : Float}

/-- Storing may make a number infinite, and never makes an infinite one finite. -/
theorem isFinite_of_stored (finite : (stored u).isFinite = true) : u.isFinite = true := by
  cases u with
  | notANumber => simp [UnpackedFloat.isFinite] at finite
  | infinity sign => simp [UnpackedFloat.isFinite] at finite
  | zero sign => rfl
  | finite sign mantissa exponent positive => rfl

/-- A sum shows if one of its terms is infinite or no number. -/
theorem operands_of_add (finite : (UnpackedFloat.add format u v).isFinite = true) :
    u.isFinite = true ∧ v.isFinite = true := by
  cases u <;> cases v <;> simp_all [UnpackedFloat.add, UnpackedFloat.isFinite]
  -- two infinities give one of them or nothing that is a number
  rename_i left right
  cases left <;> cases right <;> cases finite

theorem operands_of_sub (finite : (UnpackedFloat.sub format u v).isFinite = true) :
    u.isFinite = true ∧ v.isFinite = true := by
  cases u <;> cases v <;> simp_all [UnpackedFloat.sub, UnpackedFloat.isFinite]
  rename_i left right
  cases left <;> cases right <;> cases finite

theorem operands_of_mul (finite : (UnpackedFloat.mul format u v).isFinite = true) :
    u.isFinite = true ∧ v.isFinite = true := by
  cases u <;> cases v <;> simp_all [UnpackedFloat.mul, UnpackedFloat.isFinite]

/-- A divisor may be infinite. -/
theorem operands_of_div (finite : (UnpackedFloat.div format u v).isFinite = true) :
    u.isFinite = true ∧ v.isNaN = false := by
  cases u <;> cases v <;> simp_all [UnpackedFloat.div, UnpackedFloat.isFinite, UnpackedFloat.isNaN]

theorem finite_of_add (finite : Scalar.isFinite (x + y) = true) :
    Scalar.isFinite x = true ∧ Scalar.isFinite y = true :=
  operands_of_add (isFinite_of_stored finite)

theorem finite_of_sub (finite : Scalar.isFinite (x - y) = true) :
    Scalar.isFinite x = true ∧ Scalar.isFinite y = true :=
  operands_of_sub (isFinite_of_stored finite)

theorem finite_of_mul (finite : Scalar.isFinite (x * y) = true) :
    Scalar.isFinite x = true ∧ Scalar.isFinite y = true :=
  operands_of_mul (isFinite_of_stored finite)

theorem finite_of_div (finite : Scalar.isFinite (x / y) = true) :
    Scalar.isFinite x = true ∧ Scalar.isNaN y = false :=
  operands_of_div (isFinite_of_stored finite)

theorem finite_of_foldl_add {terms : List Float} {start : Float}
    (finite : Scalar.isFinite (terms.foldl (· + ·) start) = true) :
    Scalar.isFinite start = true ∧ ∀ t ∈ terms, Scalar.isFinite t = true := by
  induction terms generalizing start with
  | nil => exact ⟨finite, nofun⟩
  | cons t rest ih =>
    obtain ⟨sum, others⟩ := ih finite
    obtain ⟨first, second⟩ := finite_of_add sum
    exact ⟨first, List.forall_mem_cons.mpr ⟨second, others⟩⟩

/-- Nothing cancels what is not finite. -/
theorem finite_of_sum {terms : List Float} (finite : Scalar.isFinite (Scalar.sum terms) = true) :
    ∀ t ∈ terms, Scalar.isFinite t = true :=
  (finite_of_foldl_add finite).2

theorem isNaN_of_isFinite (finite : Scalar.isFinite x = true) : Scalar.isNaN x = false := by
  rw [isFinite_eq] at finite
  rw [isNaN_eq]
  revert finite
  cases value x <;> simp [UnpackedFloat.isFinite, UnpackedFloat.isNaN]

end Finite

/-! ## Comparing -/

/-- The place of a number among all numbers: its sign, and then exponent and mantissa, which count down
below zero. What is not a number is given the place of zero, but is never compared. -/
def level : UnpackedFloat → ℤ ×ₗ ℤ ×ₗ ℤ
  | .notANumber | .zero _ => toLex (0, toLex (0, 0))
  | .infinity .positive => toLex (2, toLex (0, 0))
  | .infinity .negative => toLex (-2, toLex (0, 0))
  | .finite .positive mantissa exponent _ => toLex (1, toLex (exponent, mantissa))
  | .finite .negative mantissa exponent _ => toLex (-1, toLex (-exponent, -mantissa))

section Comparing

variable {u v : UnpackedFloat} {x y z : Float}

theorem compare_eq_none_iff : u.compare v = none ↔ u.isNaN = true ∨ v.isNaN = true := by
  rcases u with (_ | _) | _ | (_ | _) | ⟨(_ | _), _, _, _⟩ <;>
    rcases v with (_ | _) | _ | (_ | _) | ⟨(_ | _), _, _, _⟩ <;>
      simp [UnpackedFloat.compare, UnpackedFloat.isNaN]

theorem numbers_of_compare {order : Ordering} (compared : u.compare v = some order) :
    u.isNaN = false ∧ v.isNaN = false := by
  have numbers : ¬ (u.isNaN = true ∨ v.isNaN = true) := by
    rw [← compare_eq_none_iff, compared]
    exact nofun
  rwa [not_or, Bool.not_eq_true, Bool.not_eq_true] at numbers

/-- Numbers are compared by their places. -/
theorem compare_eq_lt_iff (uNumber : u.isNaN = false) (vNumber : v.isNaN = false) :
    u.compare v = some .lt ↔ level u < level v := by
  rcases u with (_ | _) | _ | (_ | _) | ⟨(_ | _), _, _, _⟩ <;>
    rcases v with (_ | _) | _ | (_ | _) | ⟨(_ | _), _, _, _⟩ <;>
      simp [UnpackedFloat.compare, UnpackedFloat.isNaN, level, Prod.Lex.toLex_lt_toLex,
        Ordering.then_eq_lt, Ordering.then_eq_gt, Int.compare_eq_lt, Int.compare_eq_gt,
        Nat.compare_eq_lt, Nat.compare_eq_gt] at uNumber vNumber ⊢
  -- what is left compares one sign with another
  all_goals decide

theorem compare_eq_eq_iff (uNumber : u.isNaN = false) (vNumber : v.isNaN = false) :
    u.compare v = some .eq ↔ level u = level v := by
  rcases u with (_ | _) | _ | (_ | _) | ⟨(_ | _), _, _, _⟩ <;>
    rcases v with (_ | _) | _ | (_ | _) | ⟨(_ | _), _, _, _⟩ <;>
      simp [UnpackedFloat.compare, UnpackedFloat.isNaN, level, Ordering.then_eq_eq]
        at uNumber vNumber ⊢
  all_goals decide

theorem lt_iff : Scalar.lt x y = true ↔
    Scalar.isNaN x = false ∧ Scalar.isNaN y = false ∧ level (value x) < level (value y) := by
  rw [lt_eq, isNaN_eq, isNaN_eq, UnpackedFloat.lt, beq_iff_eq]
  constructor
  · intro less
    obtain ⟨xNumber, yNumber⟩ := numbers_of_compare less
    exact ⟨xNumber, yNumber, (compare_eq_lt_iff xNumber yNumber).mp less⟩
  · rintro ⟨xNumber, yNumber, less⟩
    exact (compare_eq_lt_iff xNumber yNumber).mpr less

theorem le_iff : Scalar.le x y = true ↔
    Scalar.isNaN x = false ∧ Scalar.isNaN y = false ∧ level (value x) ≤ level (value y) := by
  rw [le_eq, isNaN_eq, isNaN_eq, UnpackedFloat.le]
  cases compared : (value x).compare (value y) with
  | none =>
    have undefined := compare_eq_none_iff.mp compared
    simp only [Option.any_none, Bool.false_eq_true, false_iff]
    rintro ⟨xNumber, yNumber, -⟩
    simp [xNumber, yNumber] at undefined
  | some order =>
    obtain ⟨xNumber, yNumber⟩ := numbers_of_compare compared
    rw [le_iff_lt_or_eq, ← compare_eq_lt_iff xNumber yNumber, ← compare_eq_eq_iff xNumber yNumber,
      compared]
    cases order <;> simp [xNumber, yNumber]

theorem le_self (number : Scalar.isNaN x = false) : Scalar.le x x = true :=
  le_iff.mpr ⟨number, number, le_rfl⟩

theorem le_of_less (less : Scalar.lt x y = true) : Scalar.le x y = true := by
  obtain ⟨xNumber, yNumber, below⟩ := lt_iff.mp less
  exact le_iff.mpr ⟨xNumber, yNumber, below.le⟩

/-- Numbers that are not less are greater or equal. -/
theorem le_of_not_less (xNumber : Scalar.isNaN x = false) (yNumber : Scalar.isNaN y = false)
    (notLess : ¬ Scalar.lt x y = true) : Scalar.le y x = true :=
  le_iff.mpr ⟨yNumber, xNumber, not_lt.mp fun below => notLess (lt_iff.mpr ⟨xNumber, yNumber, below⟩)⟩

theorem less_of_not_le (xNumber : Scalar.isNaN x = false) (yNumber : Scalar.isNaN y = false)
    (notLe : ¬ Scalar.le x y = true) : Scalar.lt y x = true :=
  lt_iff.mpr ⟨yNumber, xNumber, not_le.mp fun below => notLe (le_iff.mpr ⟨xNumber, yNumber, below⟩)⟩

theorem less_trans (first : Scalar.lt x y = true) (second : Scalar.lt y z = true) :
    Scalar.lt x z = true := by
  rw [lt_iff] at first second ⊢
  exact ⟨first.1, second.2.1, first.2.2.trans second.2.2⟩

theorem le_trans_le (first : Scalar.le x y = true) (second : Scalar.le y z = true) :
    Scalar.le x z = true := by
  rw [le_iff] at first second ⊢
  exact ⟨first.1, second.2.1, first.2.2.trans second.2.2⟩

end Comparing

/-! ## Circular functions -/

/-- Functions that stand for the circular ones. How these round is not known, so statements that
depend on them are about all functions with some property. -/
structure Circular where
  sin : Float → Float
  cos : Float → Float
  atan : Float → Float
  atan2 : Float → Float → Float

namespace Circular

@[reducible] def scalar (c : Circular) : Scalar Float :=
  { (inferInstance : Scalar Float) with sin := c.sin, cos := c.cos, atan := c.atan, atan2 := c.atan2 }

def runtime : Circular := ⟨Float.sin, Float.cos, Float.atan, Float.atan2⟩

/-- What holds under all circular functions holds of the program. -/
theorem scalar_runtime : runtime.scalar = (inferInstance : Scalar Float) := rfl

end Circular

end DriverMonitor.Number
