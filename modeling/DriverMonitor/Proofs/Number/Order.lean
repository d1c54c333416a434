import Mathlib
import DriverMonitor.Number.Single

/-! # Two orders of single-precision words

Numbers are compared in two ways: `Single.rank` orders all words, `Single.lt` only what is a number.
`Single.lt_iff` says the second in terms of the first: on numbers the orders differ only in that both
zeros share one place, and a word that is not a number is less than nothing. In the total order such
words lie beyond all numbers, on the side that their sign bit says.

The one fact about `Float32` behind this is `Single.unpack_toFloat32`: it reads a word as
`Single.reading` does.
-/

namespace DriverMonitor.Number

open Float.Model (Format UnpackedFloat)
open Float.Model.UnpackedFloat (Sign)

/-! ## Readings -/

namespace Reading

def sign (negative : Bool) : Sign := if negative then .negative else .positive

/-- The number in the form on which `Float32` calculates: zeros are kept apart from other numbers. -/
def unpacked : Reading → UnpackedFloat
  | .nan => .notANumber
  | .infinite negative => .infinity (sign negative)
  | .finite negative mantissa exponent =>
    if zero : mantissa = 0 then .zero (sign negative)
    else .finite (sign negative) mantissa exponent (Nat.pos_of_ne_zero zero)

theorem toNat_toBitVec_sign (negative : Bool) :
    (sign negative).toBitVec.toNat = negative.toNat := by
  cases negative <;> rfl

end Reading

section Words

open Float.Model.UnpackedFloat

variable (b : BitVec Format.binary32.numBits)

theorem toNat_unpackMantissa : (unpackMantissa b).toNat = b.toNat % 2 ^ 23 := by
  simp [unpackMantissa]

theorem toNat_unpackExponent : (unpackExponent b).toNat = b.toNat / 2 ^ 23 % 256 := by
  simp [unpackExponent, Nat.shiftRight_eq_div_pow]

theorem ofBitVec_unpackSign : Sign.ofBitVec (unpackSign b) = Reading.sign (b.toNat.testBit 31) := by
  have bit : (unpackSign b).toNat = b.toNat / 2 ^ 31 % 2 := by
    simp [unpackSign, Nat.shiftRight_eq_div_pow]
  have clear : unpackSign b = 0#1 ↔ b.toNat / 2 ^ 31 % 2 = 0 := by
    rw [← BitVec.toNat_inj, bit]
    exact Iff.rfl
  simp only [Sign.ofBitVec, Reading.sign, Nat.testBit_eq_decide_div_mod_eq, clear]
  obtain even | odd := Nat.mod_two_eq_zero_or_one (b.toNat / 2 ^ 31)
  · rw [even]
    rfl
  · rw [odd]
    rfl

theorem toNat_implicit_append : (1#1 ++ unpackMantissa b).toNat = b.toNat % 2 ^ 23 + 2 ^ 23 := by
  have bound : b.toNat % 2 ^ 23 < 2 ^ Format.binary32.mantissaBitsWithoutImplicit :=
    Nat.mod_lt _ (by decide)
  rw [BitVec.toNat_append, toNat_unpackMantissa, ← Nat.shiftLeft_add_eq_or_of_lt bound]
  exact Nat.add_comm _ _

/-- Words are read by the arithmetic of `Float32` as they are read here. -/
theorem unpack_eq_read :
    UnpackedFloat.unpack .binary32 b = (Layout.single.read b.toNat).unpacked := by
  have full : unpackExponent b = (-1#_) ↔ b.toNat / 2 ^ 23 % 256 = 255 := by
    rw [← BitVec.toNat_inj, toNat_unpackExponent]
    exact Iff.rfl
  have empty : unpackExponent b = 0#_ ↔ b.toNat / 2 ^ 23 % 256 = 0 := by
    rw [← BitVec.toNat_inj, toNat_unpackExponent]
    exact Iff.rfl
  have whole : unpackMantissa b = 0#_ ↔ b.toNat % 2 ^ 23 = 0 := by
    rw [← BitVec.toNat_inj, toNat_unpackMantissa]
    exact Iff.rfl
  have least : Layout.single.leastExponent = -149 := rfl
  have bias : (Format.binary32.exponentBias : Int) +
      Format.binary32.mantissaBitsWithoutImplicit = 150 := rfl
  have implicit := toNat_implicit_append b
  rw [UnpackedFloat.unpack, Layout.read]
  simp only [full, empty, whole, implicit, toNat_unpackExponent, toNat_unpackMantissa,
    ofBitVec_unpackSign, least, bias]
  simp only [Layout.single, Nat.shiftRight_eq_div_pow, Nat.one_shiftLeft, Nat.reducePow,
    Nat.reduceAdd, Nat.reduceSub]
  -- an exponent of all ones, then one of all zeros, then the rest
  split
  · split <;> rfl
  · split
    next subnormal =>
      simp only [subnormal, Reading.unpacked]
      rfl
    next =>
      have positive : ¬ b.toNat % 8388608 + 8388608 = 0 := by omega
      simp only [Reading.unpacked, positive, dif_neg, not_false_eq_true,
        UnpackedFloat.finite.injEq, true_and]
      omega

end Words

/-- The fields of a word stand side by side. -/
theorem toNat_packComponents (negative : Bool) (exponent : BitVec Format.binary32.exponentBits)
    (mantissa : BitVec Format.binary32.mantissaBitsWithoutImplicit) :
    (UnpackedFloat.packComponents .binary32 (Reading.sign negative) exponent mantissa).toNat =
      negative.toNat * 2 ^ 31 + exponent.toNat * 2 ^ 23 + mantissa.toNat := by
  rw [UnpackedFloat.packComponents, BitVec.toNat_append, BitVec.toNat_append,
    ← Nat.shiftLeft_add_eq_or_of_lt mantissa.isLt, ← Nat.shiftLeft_add_eq_or_of_lt exponent.isLt,
    Reading.toNat_toBitVec_sign]
  simp only [Nat.shiftLeft_eq]
  omega

/-! ## Finite numbers -/

/-- Mantissa and exponent as a word gives them: only the least exponent has short mantissas. -/
structure Canonical (mantissa : Nat) (exponent : Int) : Prop where
  least : -149 ≤ exponent
  most : exponent ≤ 104
  fits : mantissa < 2 ^ 24
  full : -149 < exponent → 2 ^ 23 ≤ mantissa

def finitePlace (mantissa : Nat) (exponent : Int) : Nat := (exponent + 149).toNat * 2 ^ 23 + mantissa

namespace Canonical

variable {mantissa otherMantissa : Nat} {exponent otherExponent : Int}

theorem finitePlace_lt (canonical : Canonical mantissa exponent) :
    finitePlace mantissa exponent < 0x7f800000 := by
  obtain ⟨least, most, fits, full⟩ := canonical
  rw [finitePlace]
  omega

theorem finitePlace_eq_zero_iff (canonical : Canonical mantissa exponent) :
    finitePlace mantissa exponent = 0 ↔ mantissa = 0 := by
  obtain ⟨least, most, fits, full⟩ := canonical
  rw [finitePlace]
  omega

/-- Places are in the order of exponents, and of mantissas where exponents are equal. -/
theorem compare_eq_lt_iff (canonical : Canonical mantissa exponent)
    (other : Canonical otherMantissa otherExponent) :
    (compare exponent otherExponent).then (compare mantissa otherMantissa) = .lt ↔
      finitePlace mantissa exponent < finitePlace otherMantissa otherExponent := by
  obtain ⟨least, most, fits, full⟩ := canonical
  obtain ⟨otherLeast, otherMost, otherFits, otherFull⟩ := other
  rw [Ordering.then_eq_lt, Int.compare_eq_lt, Int.compare_eq_eq, Nat.compare_eq_lt, finitePlace,
    finitePlace]
  omega

theorem compare_eq_gt_iff (canonical : Canonical mantissa exponent)
    (other : Canonical otherMantissa otherExponent) :
    (compare exponent otherExponent).then (compare mantissa otherMantissa) = .gt ↔
      finitePlace otherMantissa otherExponent < finitePlace mantissa exponent := by
  obtain ⟨least, most, fits, full⟩ := canonical
  obtain ⟨otherLeast, otherMost, otherFits, otherFull⟩ := other
  rw [Ordering.then_eq_gt, Int.compare_eq_gt, Int.compare_eq_eq, Nat.compare_eq_gt, finitePlace,
    finitePlace]
  omega

end Canonical

/-- Packing adds the mantissa, hidden bit included, to the exponent one below its own. -/
theorem toNat_pack_finite (negative : Bool) {mantissa : Nat} (positive : 0 < mantissa)
    {exponent : Int} (canonical : Canonical mantissa exponent) :
    (UnpackedFloat.pack .binary32
        (.finite (Reading.sign negative) mantissa exponent positive)).toNat =
      negative.toNat * 2 ^ 31 + finitePlace mantissa exponent := by
  obtain ⟨least, most, fits, full⟩ := canonical
  have bias : (Format.binary32.exponentBias : Int) = 127 := rfl
  have width : (Format.binary32.mantissaBitsWithoutImplicit : Int) = 23 := rfl
  have finite : ¬ 2 ^ Format.binary32.exponentBits ≤
      (exponent + Format.binary32.exponentBias +
        Format.binary32.mantissaBitsWithoutImplicit).toNat + 1 := by
    rw [bias, width]
    change ¬ 256 ≤ _
    omega
  -- whether the hidden bit is there is tested by the length of the mantissa
  have normal : mantissa.log2 + 1 = Format.binary32.mantissaBits ↔ 2 ^ 23 ≤ mantissa := by
    have log := Nat.log2_eq_iff (k := 23) (Nat.ne_of_gt positive)
    change mantissa.log2 + 1 = 24 ↔ _
    omega
  simp only [UnpackedFloat.pack, if_neg finite, finitePlace]
  split
  next isNormal =>
    have large := normal.mp isNormal
    rw [toNat_packComponents, BitVec.toNat_ofNat, BitVec.toNat_ofNat, bias, width]
    change _ + (exponent + 127 + 23).toNat % 256 * 2 ^ 23 + mantissa % 2 ^ 23 = _
    omega
  next isSubnormal =>
    have small : ¬ 2 ^ 23 ≤ mantissa := fun large => isSubnormal (normal.mpr large)
    rw [toNat_packComponents, BitVec.toNat_ofNat]
    change _ + 0 * 2 ^ 23 + mantissa % 2 ^ 23 = _
    omega

namespace Single

variable {a b x : Single}

/-! ## Words by their reading -/

def isNegative (x : Single) : Bool := 0x80000000 ≤ x.bits

/-- The word without its sign bit. It grows with the size of what the word stands for. -/
def place (x : Single) : Nat := x.bits.toNat % 2 ^ 31

theorem isNegative_iff : x.isNegative = true ↔ 2 ^ 31 ≤ x.bits.toNat := by
  rw [isNegative, decide_eq_true_eq, UInt32.le_iff_toNat_le]
  exact Iff.rfl

theorem toNat_bits (x : Single) : x.bits.toNat = x.isNegative.toNat * 2 ^ 31 + x.place := by
  have bound : x.bits.toNat < 2 ^ 32 := x.bits.toNat_lt
  have sign := isNegative_iff (x := x)
  rw [place]
  cases negative : x.isNegative with
  | false =>
    rw [negative] at sign
    simp only [Bool.false_eq_true, false_iff] at sign
    change _ = 0 * 2 ^ 31 + _
    omega
  | true =>
    have high := sign.mp negative
    change _ = 1 * 2 ^ 31 + _
    omega

theorem isNaN_iff : x.isNaN = true ↔ 0x7f800000 < x.place := by
  have masked : (x.bits &&& 0x7fffffff).toNat = x.place := by
    rw [UInt32.toNat_and]
    exact Nat.and_two_pow_sub_one_eq_mod x.bits.toNat 31
  rw [isNaN, decide_eq_true_eq, UInt32.lt_iff_toNat_lt, masked]
  exact Iff.rfl

theorem isNaN_eq_false_iff : x.isNaN = false ↔ x.place ≤ 0x7f800000 := by
  rw [← Bool.not_eq_true, isNaN_iff, Nat.not_lt]

/-- With a minus sign, words count down from below zero. -/
theorem rank_eq (x : Single) : x.rank = if x.isNegative then -1 - (x.place : Int) else x.place := by
  have word := x.toNat_bits
  have sign := isNegative_iff (x := x)
  have low : x.bits < 0x80000000 ↔ x.bits.toNat < 2 ^ 31 := UInt32.lt_iff_toNat_lt
  simp only [rank, low]
  cases negative : x.isNegative with
  | false =>
    rw [negative] at word sign
    simp only [Bool.false_eq_true, false_iff] at sign
    change _ = 0 * 2 ^ 31 + _ at word
    rw [if_pos (by omega), if_neg Bool.false_ne_true]
    omega
  | true =>
    have high := sign.mp negative
    rw [negative] at word
    change _ = 1 * 2 ^ 31 + _ at word
    rw [if_neg (by omega), if_pos rfl]
    omega

/-- Different words have different places in the total order. -/
theorem rank_inj : a.rank = b.rank ↔ a = b := by
  constructor
  · intro same
    have aWord : a.bits.toNat < 2 ^ 32 := a.bits.toNat_lt
    have bWord : b.bits.toNat < 2 ^ 32 := b.bits.toNat_lt
    have low (x : Single) : x.bits < 0x80000000 ↔ x.bits.toNat < 2 ^ 31 := UInt32.lt_iff_toNat_lt
    have bits : a.bits.toNat = b.bits.toNat := by
      simp only [rank, low] at same
      split at same <;> split at same <;> omega
    exact congrArg Single.mk (UInt32.toNat_inj.mp bits)
  · rintro rfl
    rfl

inductive Reads (x : Single) : Reading → Prop where
  | nan (place : 0x7f800000 < x.place) : Reads x .nan
  | infinite (place : x.place = 0x7f800000) : Reads x (.infinite x.isNegative)
  | finite {mantissa : Nat} {exponent : Int} (canonical : Canonical mantissa exponent)
      (place : x.place = finitePlace mantissa exponent) :
      Reads x (.finite x.isNegative mantissa exponent)

/-- Every word can be read by its sign and its place. -/
theorem reads (x : Single) : x.Reads x.reading := by
  have below : x.place = x.bits.toNat % 2 ^ 31 := rfl
  have least : Layout.single.leastExponent = -149 := rfl
  have sign : x.bits.toNat.testBit 31 = x.isNegative := by
    have bound : x.bits.toNat < 2 ^ 32 := x.bits.toNat_lt
    rw [Bool.eq_iff_iff, isNegative_iff, Nat.testBit_eq_decide_div_mod_eq, decide_eq_true_eq]
    omega
  rw [reading, Layout.read, least]
  simp only [Layout.single, Nat.shiftRight_eq_div_pow, Nat.one_shiftLeft, Nat.reduceAdd, sign]
  split
  · split
    · exact .infinite (by omega)
    · exact .nan (by omega)
  · split
    · refine .finite ⟨by omega, by omega, by omega, by omega⟩ ?_
      rw [finitePlace]
      omega
    · refine .finite ⟨by omega, by omega, by omega, by omega⟩ ?_
      rw [finitePlace]
      omega

theorem Reads.eq_nan {r : Reading} (reads : x.Reads r) (undefined : x.isNaN = true) : r = .nan := by
  have beyond := isNaN_iff.mp undefined
  cases reads with
  | nan => rfl
  | infinite place => omega
  | finite canonical place =>
    have below := canonical.finitePlace_lt
    omega

/-! ## Words as floats -/

/-- A number is packed into the word that it was read from. -/
theorem toNat_pack_reading {r : Reading} (reads : x.Reads r) (number : x.isNaN = false) :
    (UnpackedFloat.pack .binary32 r.unpacked).toNat = x.bits.toNat := by
  have notBeyond := isNaN_eq_false_iff.mp number
  rw [x.toNat_bits]
  cases reads with
  | nan place => omega
  | infinite place =>
    -- infinity has the full exponent and no mantissa
    have full : (-1#_ : BitVec Format.binary32.exponentBits).toNat = 255 := rfl
    refine (toNat_packComponents x.isNegative (-1#_) 0#_).trans ?_
    rw [full, BitVec.toNat_zero]
    omega
  | finite canonical place =>
    rw [Reading.unpacked]
    split
    next zero =>
      -- zero has the sign only
      have lowest := canonical.finitePlace_eq_zero_iff.mpr zero
      refine (toNat_packComponents x.isNegative 0#_ 0#_).trans ?_
      rw [BitVec.toNat_zero, BitVec.toNat_zero]
      omega
    next nonzero =>
      rw [toNat_pack_finite x.isNegative _ canonical, place]

theorem unpack_toFloat32 (x : Single) : x.toFloat32.toModel.unpack = x.reading.unpacked := by
  have read : UnpackedFloat.unpack .binary32 x.bits.toBitVec = x.reading.unpacked :=
    unpack_eq_read x.bits.toBitVec
  change UnpackedFloat.unpack .binary32
    (UnpackedFloat.pack .binary32 (UnpackedFloat.unpack .binary32 x.bits.toBitVec)) = _
  rw [read]
  -- packing loses which NaN it was, but all of them are unpacked alike
  cases undefined : x.isNaN with
  | true =>
    rw [x.reads.eq_nan undefined]
    rfl
  | false =>
    have same : UnpackedFloat.pack .binary32 x.reading.unpacked = x.bits.toBitVec :=
      BitVec.eq_of_toNat_eq (toNat_pack_reading x.reads undefined)
    rw [same, read]

/-! ## Comparing -/

def level (x : Single) : Int := if x.isNegative then -x.place else x.place

/-- The total order of words refines the order of numbers. -/
theorem level_le_of_rank_le (above : a.rank ≤ b.rank) : a.level ≤ b.level := by
  rw [rank_eq, rank_eq] at above
  rw [level, level]
  revert above
  cases a.isNegative <;> cases b.isNegative <;> simp only [Bool.false_eq_true, ↓reduceIte] <;> omega

theorem compare_eq_lt_iff {r t : Reading} (ra : a.Reads r) (rb : b.Reads t)
    (aNumber : a.isNaN = false) (bNumber : b.isNaN = false) :
    r.unpacked.compare t.unpacked = some .lt ↔ a.level < b.level := by
  rw [isNaN_eq_false_iff] at aNumber bNumber
  rw [level, level]
  -- two finite numbers are compared by sign, exponent and mantissa, all others by kind and sign
  cases ra with
  | nan => omega
  | infinite aPlace =>
    cases rb with
    | nan => omega
    | infinite bPlace =>
      cases a.isNegative <;> cases b.isNegative <;>
        simp [Reading.unpacked, Reading.sign, UnpackedFloat.compare, compare, aPlace, bPlace]
    | finite bCanonical bPlace =>
      have below := bCanonical.finitePlace_lt
      rw [Reading.unpacked, Reading.unpacked]
      split
      · cases a.isNegative <;> cases b.isNegative <;>
          simp [Reading.sign, UnpackedFloat.compare] <;> omega
      · cases a.isNegative <;> cases b.isNegative <;>
          simp [Reading.sign, UnpackedFloat.compare] <;> omega
  | finite aCanonical aPlace =>
    have aBelow := aCanonical.finitePlace_lt
    have aZero := aCanonical.finitePlace_eq_zero_iff
    cases rb with
    | nan => omega
    | infinite bPlace =>
      rw [Reading.unpacked, Reading.unpacked]
      split
      · cases a.isNegative <;> cases b.isNegative <;>
          simp [Reading.sign, UnpackedFloat.compare] <;> omega
      · cases a.isNegative <;> cases b.isNegative <;>
          simp [Reading.sign, UnpackedFloat.compare] <;> omega
    | finite bCanonical bPlace =>
      have bZero := bCanonical.finitePlace_eq_zero_iff
      have less := aCanonical.compare_eq_lt_iff bCanonical
      have greater := aCanonical.compare_eq_gt_iff bCanonical
      rw [Reading.unpacked, Reading.unpacked]
      split <;> split
      · cases a.isNegative <;> cases b.isNegative <;> simp [UnpackedFloat.compare] <;> omega
      · cases a.isNegative <;> cases b.isNegative <;>
          simp [Reading.sign, UnpackedFloat.compare] <;> omega
      · cases a.isNegative <;> cases b.isNegative <;>
          simp [Reading.sign, UnpackedFloat.compare] <;> omega
      · cases a.isNegative <;> cases b.isNegative <;>
          simp [Reading.sign, UnpackedFloat.compare, less, greater] <;> omega

theorem lt_eq_compare (a b : Single) :
    a.lt b = (a.reading.unpacked.compare b.reading.unpacked == some .lt) := by
  rw [← unpack_toFloat32, ← unpack_toFloat32]
  exact (Bool.decide_coe _).trans (Bool.decide_coe _)

theorem lt_iff : a.lt b = true ↔ a.isNaN = false ∧ b.isNaN = false ∧ a.level < b.level := by
  rw [lt_eq_compare, beq_iff_eq]
  cases aNumber : a.isNaN with
  | true =>
    rw [a.reads.eq_nan aNumber]
    exact ⟨nofun, nofun⟩
  | false =>
    cases bNumber : b.isNaN with
    | true =>
      rw [b.reads.eq_nan bNumber]
      cases a.reading.unpacked <;> exact ⟨nofun, nofun⟩
    | false =>
      rw [compare_eq_lt_iff a.reads b.reads aNumber bNumber]
      exact ⟨fun below => ⟨rfl, rfl, below⟩, fun less => less.2.2⟩

/-! ## Words that are not numbers -/

/-- With a minus sign, what is no number is below all numbers. -/
theorem rank_lt_of_negative_nan (undefined : a.isNaN = true) (negative : a.isNegative = true)
    (number : b.isNaN = false) : a.rank < b.rank := by
  rw [isNaN_iff] at undefined
  rw [isNaN_eq_false_iff] at number
  rw [rank_eq, rank_eq, if_pos negative]
  split <;> omega

/-- Without one, it is above all numbers. -/
theorem rank_lt_of_positive_nan (undefined : a.isNaN = true) (positive : a.isNegative = false)
    (number : b.isNaN = false) : b.rank < a.rank := by
  rw [isNaN_iff] at undefined
  rw [isNaN_eq_false_iff] at number
  rw [rank_eq, rank_eq, positive, if_neg Bool.false_ne_true]
  split <;> omega

/-! ## Equal to zero -/

theorem isNonzero_iff : x.isNonzero = true ↔ x.place ≠ 0 := by
  have masked : (x.bits &&& 0x7fffffff).toNat = x.place := by
    rw [UInt32.toNat_and]
    exact Nat.and_two_pow_sub_one_eq_mod x.bits.toNat 31
  rw [isNonzero, bne_iff_ne, ne_eq, ← UInt32.toNat_inj, masked]
  exact Iff.rfl

theorem beq_zero_eq_compare (x : Single) :
    (x.toFloat32 == 0) = (x.reading.unpacked.compare (.zero .positive) == some .eq) := by
  rw [← unpack_toFloat32]
  rfl

theorem Reads.compare_zero_iff {r : Reading} (reads : x.Reads r) :
    r.unpacked.compare (.zero .positive) = some .eq ↔ x.place = 0 := by
  cases reads with
  | nan place =>
    simp [UnpackedFloat.compare, Reading.unpacked]
    omega
  | infinite place =>
    cases x.isNegative <;> simp [UnpackedFloat.compare, Reading.unpacked, Reading.sign, place]
  | finite canonical place =>
    rw [place, canonical.finitePlace_eq_zero_iff, Reading.unpacked]
    split
    next zero => simp [UnpackedFloat.compare, zero]
    next nonzero => cases x.isNegative <;> simp [UnpackedFloat.compare, nonzero, Reading.sign]

/-- The test of the bits is the comparison of the numbers. -/
theorem isNonzero_iff_ne_zero : x.isNonzero = true ↔ (x.toFloat32 == 0) = false := by
  rw [isNonzero_iff, beq_zero_eq_compare, ← Bool.not_eq_true, beq_iff_eq, x.reads.compare_zero_iff]

end Single

end DriverMonitor.Number
