import DriverMonitor.Proofs.Number.Order

/-! # Numbers without a minus sign

A difference may be negative, but its square is not, nor is a sum of squares, its root, or a mean of
such roots. A negative zero counts as negative here, as it does in the total order: a mean distance is
never below positive zero there, unless it is not a number. The sum of no terms is a negative zero, so
there has to be something to add.

Rounding never touches a sign; everything else is one case of the operation for each kind of operand.
-/

namespace DriverMonitor.Number

open Float.Model (Format UnpackedFloat)
open Float.Model.UnpackedFloat (Sign Accuracy)

/-! ## Signs of results -/

/-- No minus sign, also not before a zero. What is not a number has no sign. -/
def Unsigned : UnpackedFloat → Prop
  | .infinity sign | .zero sign | .finite sign _ _ _ => sign = .positive
  | .notANumber => True

namespace Unsigned

variable {format : Format} {u v : UnpackedFloat}

theorem roundWithAccuracy (mantissa : Nat) (exponent : Int) (accuracy : Accuracy) :
    Unsigned (UnpackedFloat.roundWithAccuracy format .positive mantissa exponent accuracy) := by
  simp only [UnpackedFloat.roundWithAccuracy]
  split <;> rfl

theorem normalize {mantissa : Int} (nonnegative : 0 ≤ mantissa) (exponent : Int) :
    Unsigned (UnpackedFloat.normalize format mantissa exponent .positive) := by
  rw [UnpackedFloat.normalize]
  split
  next less =>
    have negative := Int.compare_eq_lt.mp less
    omega
  next => rfl
  next => exact roundWithAccuracy _ _ _

/-- A sum has no minus sign if neither of its terms has one. -/
theorem add (left : Unsigned u) (right : Unsigned v) : Unsigned (UnpackedFloat.add format u v) := by
  cases u with
  | notANumber => trivial
  | infinity sign =>
    cases left
    cases v with
    | notANumber => trivial
    | infinity sign =>
      cases right
      rfl
    | zero sign => rfl
    | finite sign mantissa exponent positive => rfl
  | zero sign =>
    cases left
    cases v with
    | notANumber => trivial
    | infinity sign => exact right
    | zero sign =>
      cases right
      rfl
    | finite sign mantissa exponent positive => exact right
  | finite sign mantissa exponent positive =>
    cases left
    cases v with
    | notANumber => trivial
    | infinity sign => exact right
    | zero sign => rfl
    | finite sign otherMantissa otherExponent otherPositive =>
      cases right
      exact normalize (Int.add_nonneg (Int.natCast_nonneg _) (Int.natCast_nonneg _)) _

/-- The sum of no terms is a negative zero, and stays one only until a term is added. -/
theorem negativeZero_add (right : Unsigned v) :
    Unsigned (UnpackedFloat.add format (.zero .negative) v) := by
  cases v with
  | notANumber => trivial
  | infinity sign => exact right
  | zero sign =>
    cases right
    rfl
  | finite sign mantissa exponent positive => exact right

/-- A square has no minus sign. -/
theorem mul_self (u : UnpackedFloat) : Unsigned (UnpackedFloat.mul format u u) := by
  have square : ∀ sign : Sign, sign * sign = .positive := by
    intro sign
    cases sign <;> rfl
  cases u with
  | notANumber => trivial
  | infinity sign => exact square sign
  | zero sign => exact square sign
  | finite sign mantissa exponent positive =>
    rw [UnpackedFloat.mul, square]
    exact roundWithAccuracy _ _ _

theorem sqrt (radicand : Unsigned u) : Unsigned (UnpackedFloat.sqrt format u) := by
  cases u with
  | notANumber => trivial
  | infinity sign | zero sign =>
    cases radicand
    rfl
  | finite sign mantissa exponent positive =>
    cases radicand
    exact roundWithAccuracy _ _ _

theorem div (left : Unsigned u) (right : Unsigned v) : Unsigned (UnpackedFloat.div format u v) := by
  cases u with
  | notANumber => trivial
  | infinity sign | zero sign =>
    cases left
    cases v with
    | notANumber => trivial
    | infinity sign | zero sign | finite sign mantissa exponent positive =>
      cases right
      trivial
  | finite sign mantissa exponent positive =>
    cases left
    cases v with
    | notANumber => trivial
    | infinity sign | zero sign =>
      cases right
      trivial
    | finite sign otherMantissa otherExponent otherPositive =>
      cases right
      exact roundWithAccuracy _ _ _

theorem toNat_packComponents_lt (exponent : BitVec Format.binary32.exponentBits)
    (mantissa : BitVec Format.binary32.mantissaBitsWithoutImplicit) :
    (UnpackedFloat.packComponents .binary32 .positive exponent mantissa).toNat < 2 ^ 31 := by
  have parts := toNat_packComponents false exponent mantissa
  have exponentBound : exponent.toNat < 2 ^ 8 := exponent.isLt
  have mantissaBound : mantissa.toNat < 2 ^ 23 := mantissa.isLt
  change (UnpackedFloat.packComponents .binary32 .positive exponent mantissa).toNat =
    0 * 2 ^ 31 + _ + _ at parts
  omega

/-- Without a minus sign the sign bit is clear. -/
theorem toNat_pack_lt (unsigned : Unsigned u) : (UnpackedFloat.pack .binary32 u).toNat < 2 ^ 31 := by
  cases u with
  | notANumber => exact toNat_packComponents_lt _ _
  | infinity sign | zero sign =>
    cases unsigned
    exact toNat_packComponents_lt _ _
  | finite sign mantissa exponent positive =>
    cases unsigned
    simp only [UnpackedFloat.pack, UnpackedFloat.packedInfinity]
    split
    · exact toNat_packComponents_lt _ _
    · split <;> exact toNat_packComponents_lt _ _

end Unsigned

namespace Single

variable {a b x : Single}

/-! ## Results as words -/

def ofUnpacked (u : UnpackedFloat) : Single := ofResult (.ofModel (.pack u))

theorem combine_of_number {op : Float32 → Float32 → Float32} (aNumber : a.isNaN = false)
    (bNumber : b.isNaN = false) : combine op a b = ofResult (op a.toFloat32 b.toFloat32) := by
  simp [combine, aNumber, bNumber]

/-- For numbers, the operations are those of `Float32`. -/
theorem add_eq (aNumber : a.isNaN = false) (bNumber : b.isNaN = false) :
    a + b = ofUnpacked (.add .binary32 a.reading.unpacked b.reading.unpacked) := by
  rw [← unpack_toFloat32, ← unpack_toFloat32]
  exact combine_of_number aNumber bNumber

theorem sub_eq (aNumber : a.isNaN = false) (bNumber : b.isNaN = false) :
    a - b = ofUnpacked (.sub .binary32 a.reading.unpacked b.reading.unpacked) := by
  rw [← unpack_toFloat32, ← unpack_toFloat32]
  exact combine_of_number aNumber bNumber

theorem mul_eq (aNumber : a.isNaN = false) (bNumber : b.isNaN = false) :
    a * b = ofUnpacked (.mul .binary32 a.reading.unpacked b.reading.unpacked) := by
  rw [← unpack_toFloat32, ← unpack_toFloat32]
  exact combine_of_number aNumber bNumber

theorem div_eq (aNumber : a.isNaN = false) (bNumber : b.isNaN = false) :
    a / b = ofUnpacked (.div .binary32 a.reading.unpacked b.reading.unpacked) := by
  rw [← unpack_toFloat32, ← unpack_toFloat32]
  exact combine_of_number aNumber bNumber

theorem sqrt_eq (number : x.isNaN = false) :
    x.sqrt = ofUnpacked (.sqrt .binary32 x.reading.unpacked) := by
  rw [← unpack_toFloat32, sqrt, if_neg (by rw [number]; exact Bool.false_ne_true)]
  rfl

theorem isNaN_quiet (undefined : x.isNaN = true) : x.quiet.isNaN = true := by
  rw [isNaN_iff, place] at undefined ⊢
  rw [quiet, UInt32.toNat_or, Nat.or_mod_two_pow]
  exact Nat.lt_of_lt_of_le undefined Nat.left_le_or

/-- An operation has something that is not a number as its result if an operand is not a number. -/
theorem isNaN_combine {op : Float32 → Float32 → Float32}
    (undefined : a.isNaN = true ∨ b.isNaN = true) : (combine op a b).isNaN = true := by
  rw [combine]
  split
  next aUndefined => exact isNaN_quiet aUndefined
  next aNumber =>
    have bUndefined := undefined.resolve_left aNumber
    rw [if_pos bUndefined]
    exact isNaN_quiet bUndefined

/-! ## Words that are not negative -/

def NotNegative (x : Single) : Prop := x.isNaN = false → x.isNegative = false

theorem notNegative_of_isNaN (undefined : x.isNaN = true) : x.NotNegative := by
  intro number
  rw [undefined] at number
  cases number

theorem Reads.unsigned {r : Reading} (reads : x.Reads r) (positive : x.isNegative = false) :
    Unsigned r.unpacked := by
  cases reads with
  | nan => trivial
  | infinite => exact congrArg Reading.sign positive
  | finite =>
    rw [Reading.unpacked]
    split <;> exact congrArg Reading.sign positive

theorem NotNegative.unsigned (notNegative : x.NotNegative) : Unsigned x.reading.unpacked := by
  cases undefined : x.isNaN with
  | true =>
    rw [x.reads.eq_nan undefined]
    trivial
  | false => exact x.reads.unsigned (notNegative undefined)

theorem notNegative_ofUnpacked {u : UnpackedFloat} (unsigned : Unsigned u) :
    (ofUnpacked u).NotNegative := by
  rw [ofUnpacked, ofResult]
  split
  · exact notNegative_of_isNaN rfl
  · intro _
    have low := unsigned.toNat_pack_lt
    rw [← Bool.not_eq_true, isNegative_iff]
    exact Nat.not_le.mpr low

/-- Only operands that are numbers have to be looked at. -/
theorem notNegative_combine {op : Float32 → Float32 → Float32}
    (numbers : a.isNaN = false → b.isNaN = false → (combine op a b).NotNegative) :
    (combine op a b).NotNegative := by
  cases aNumber : a.isNaN with
  | true => exact notNegative_of_isNaN (isNaN_combine (.inl aNumber))
  | false =>
    cases bNumber : b.isNaN with
    | true => exact notNegative_of_isNaN (isNaN_combine (.inr bNumber))
    | false => exact numbers aNumber bNumber

theorem NotNegative.add (left : a.NotNegative) (right : b.NotNegative) : (a + b).NotNegative := by
  refine notNegative_combine fun aNumber bNumber => ?_
  show (a + b).NotNegative
  rw [add_eq aNumber bNumber]
  exact notNegative_ofUnpacked (left.unsigned.add right.unsigned)

/-- The negative zero that a sum starts from is gone with the first term. -/
theorem NotNegative.negativeZero_add (right : b.NotNegative) : (negativeZero + b).NotNegative := by
  refine notNegative_combine fun zeroNumber bNumber => ?_
  show (negativeZero + b).NotNegative
  rw [add_eq zeroNumber bNumber]
  exact notNegative_ofUnpacked right.unsigned.negativeZero_add

theorem notNegative_mul_self (x : Single) : (x * x).NotNegative := by
  refine notNegative_combine fun number _ => ?_
  show (x * x).NotNegative
  rw [mul_eq number number]
  exact notNegative_ofUnpacked (.mul_self x.reading.unpacked)

theorem NotNegative.div (left : a.NotNegative) (right : b.NotNegative) : (a / b).NotNegative := by
  refine notNegative_combine fun aNumber bNumber => ?_
  show (a / b).NotNegative
  rw [div_eq aNumber bNumber]
  exact notNegative_ofUnpacked (left.unsigned.div right.unsigned)

theorem NotNegative.sqrt (radicand : x.NotNegative) : x.sqrt.NotNegative := by
  cases undefined : x.isNaN with
  | true =>
    rw [Single.sqrt, if_pos undefined]
    exact notNegative_of_isNaN (isNaN_quiet undefined)
  | false =>
    rw [sqrt_eq undefined]
    exact notNegative_ofUnpacked radicand.unsigned.sqrt

theorem NotNegative.foldl_add {terms : List Single} (notNegative : ∀ t ∈ terms, t.NotNegative)
    (start : x.NotNegative) : (terms.foldl (· + ·) x).NotNegative := by
  induction terms generalizing x with
  | nil => exact start
  | cons t rest ih =>
    obtain ⟨first, others⟩ := List.forall_mem_cons.mp notNegative
    exact ih others (start.add first)

/-- Without terms the sum would be negative zero. -/
theorem notNegative_sum {terms : List Single} (notNegative : ∀ t ∈ terms, t.NotNegative)
    (nonempty : terms ≠ []) : (sum terms).NotNegative := by
  cases terms with
  | nil => exact absurd rfl nonempty
  | cons t rest =>
    obtain ⟨first, others⟩ := List.forall_mem_cons.mp notNegative
    have folded := NotNegative.foldl_add others first.negativeZero_add
    exact folded

/-! ## Counts -/

theorem magnitude_pos {n : Nat} (positive : 0 < n) : 0 < Layout.single.magnitude n 0 := by
  have least : Layout.single.leastExponent = -149 := rfl
  have infinity : Layout.single.infinity = 0x7f800000 := rfl
  rw [Layout.magnitude, if_neg (by omega), least, infinity]
  simp only [Layout.single, Nat.shiftLeft_eq]
  generalize max (0 + ((n.log2 : Int) + 1) - ((23 : Nat) + 1)) (-149) = unit
  refine Nat.lt_min.mpr ⟨by decide, ?_⟩
  by_cases fits : 0 ≥ unit
  · rw [if_pos fits]
    exact Nat.add_pos_right _ (Nat.mul_pos positive (Nat.two_pow_pos _))
  · refine Nat.add_pos_left ?_ _
    omega

theorem magnitude_le (n : Nat) : Layout.single.magnitude n 0 ≤ 0x7f800000 := by
  rw [Layout.magnitude]
  split
  · decide
  · exact Nat.min_le_left _ _

theorem toNat_ofNat (n : Nat) : (ofNat n).bits.toNat = Layout.single.magnitude n 0 := by
  have bound := magnitude_le n
  rw [ofNat, Layout.ofDyadic, if_neg Bool.false_ne_true, Nat.add_zero]
  exact UInt32.toNat_ofNat_of_lt' (Nat.lt_of_le_of_lt bound (by decide))

theorem place_ofNat (n : Nat) : (ofNat n).place = Layout.single.magnitude n 0 := by
  have bound := magnitude_le n
  rw [place, toNat_ofNat]
  exact Nat.mod_eq_of_lt (by omega)

theorem isNaN_ofNat (n : Nat) : (ofNat n).isNaN = false := by
  rw [isNaN_eq_false_iff, place_ofNat]
  exact magnitude_le n

theorem isNegative_ofNat (n : Nat) : (ofNat n).isNegative = false := by
  have bound := magnitude_le n
  rw [← Bool.not_eq_true, isNegative_iff, toNat_ofNat]
  omega

theorem notNegative_mean {terms : List Single} (notNegative : ∀ t ∈ terms, t.NotNegative)
    (nonempty : terms ≠ []) : (mean terms).NotNegative :=
  (notNegative_sum notNegative nonempty).div fun _ => isNegative_ofNat _

/-! ## Zeros -/

theorem ofUnpacked_zero : ofUnpacked (.zero .positive) = zero := by decide

def IsFinite (x : Single) : Prop :=
  ∃ negative mantissa exponent, x.reading = .finite negative mantissa exponent

theorem IsFinite.isNaN_eq_false (finite : x.IsFinite) : x.isNaN = false := by
  obtain ⟨negative, mantissa, exponent, read⟩ := finite
  cases undefined : x.isNaN with
  | false => rfl
  | true =>
    have readsNaN := x.reads.eq_nan undefined
    rw [read] at readsNaN
    cases readsNaN

theorem sub_self_unpacked (negative : Bool) (mantissa : Nat) (exponent : Int) :
    let u := (Reading.finite negative mantissa exponent).unpacked
    UnpackedFloat.sub .binary32 u u = .zero .positive := by
  simp only [Reading.unpacked]
  split
  · cases negative <;> rfl
  · simp only [UnpackedFloat.sub, Int.sub_self]
    rfl

/-- A finite word minus itself is positive zero. -/
theorem sub_self (finite : x.IsFinite) : x - x = zero := by
  have number := finite.isNaN_eq_false
  obtain ⟨negative, mantissa, exponent, read⟩ := finite
  rw [sub_eq number number, read, sub_self_unpacked, ofUnpacked_zero]

theorem zero_mul_zero : zero * zero = zero := by decide

theorem negativeZero_add_zero : negativeZero + zero = zero := by decide

theorem zero_add_zero : zero + zero = zero := by decide

theorem sqrt_zero : zero.sqrt = zero := by decide

theorem Reads.zero_div {r : Reading} (reads : x.Reads r) (number : x.isNaN = false)
    (positive : x.isNegative = false) (nonzero : x.place ≠ 0) :
    UnpackedFloat.div .binary32 (.zero .positive) r.unpacked = .zero .positive := by
  cases reads with
  | nan place =>
    rw [isNaN_eq_false_iff] at number
    omega
  | infinite place =>
    rw [positive]
    rfl
  | finite canonical place =>
    have mantissaNonzero := mt canonical.finitePlace_eq_zero_iff.mpr (place ▸ nonzero)
    rw [positive, Reading.unpacked, dif_neg mantissaNonzero]
    rfl

theorem zero_div_ofNat {n : Nat} (positive : 0 < n) : zero / ofNat n = zero := by
  have nonzero : (ofNat n).place ≠ 0 := by
    rw [place_ofNat]
    exact Nat.ne_of_gt (magnitude_pos positive)
  have quotient := (ofNat n).reads.zero_div (isNaN_ofNat n) (isNegative_ofNat n) nonzero
  have zeroRead : zero.reading.unpacked = .zero .positive := rfl
  rw [div_eq rfl (isNaN_ofNat n), zeroRead, quotient, ofUnpacked_zero]

theorem foldl_add_replicate_zero (n : Nat) : (List.replicate n zero).foldl (· + ·) zero = zero := by
  induction n with
  | zero => rfl
  | succ n ih => rw [List.replicate_succ, List.foldl_cons, zero_add_zero, ih]

theorem sum_replicate_zero {n : Nat} (positive : 0 < n) : sum (List.replicate n zero) = zero := by
  cases n with
  | zero => cases positive
  | succ n =>
    rw [sum, List.replicate_succ, List.foldl_cons, negativeZero_add_zero]
    exact foldl_add_replicate_zero n

/-- The mean of zeros is positive zero. -/
theorem mean_replicate_zero {n : Nat} (positive : 0 < n) : mean (List.replicate n zero) = zero := by
  rw [mean, sum_replicate_zero positive, List.length_replicate, zero_div_ofNat positive]

end Single

end DriverMonitor.Number
