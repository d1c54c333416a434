import DriverMonitor.Proofs.Number.Negation
import DriverMonitor.Proofs.Number.Sign

/-! # How large results are

Results are bounded by powers of two. `Below k` says that a number is less than `2 ^ k` in size; each
operation moves `k` by what it can at most add, rounding included, and as long as `k` stays within the
range of the format the result is stored as a number.

From below, only roots matter: a root of a number that is not zero has a full mantissa at an exponent
far from the least one, `Sizable`, and a sum with such a number has so again.
-/

namespace DriverMonitor.Number

open Float.Model (Format UnpackedFloat)
open Float.Model.UnpackedFloat (Sign Accuracy ExtendedMantissa)

/-! ## Rounding -/

structure Fits (k : ℤ) (mantissa : ℕ) (exponent : ℤ) : Prop where
  exponent_le : exponent ≤ k
  mantissa_lt : mantissa < 2 ^ (k - exponent).toNat

section Rounding

variable {k : ℤ} {mantissa : ℕ} {exponent : ℤ} {accuracy : Accuracy} {sign : Sign}

theorem mantissa_shiftRight (em : ExtendedMantissa) (n : ℕ) :
    (em >>> n).mantissa = em.mantissa / 2 ^ n := by
  induction n with
  | zero => exact (Nat.div_one _).symm
  | succ n ih =>
    show (em >>> n).mantissa / 2 = _
    rw [ih, Nat.div_div_eq_div_mul, Nat.pow_succ]

theorem mantissa_ofMantissaAndAccuracy :
    (ExtendedMantissa.ofMantissaAndAccuracy mantissa accuracy).mantissa = mantissa := by
  rcases accuracy with _ | (_ | _ | _) <;> rfl

/-- Rounding adds at most one. -/
theorem roundedMantissa_bounds (em : ExtendedMantissa) :
    em.mantissa ≤ em.roundedMantissa ∧ em.roundedMantissa ≤ em.mantissa + 1 := by
  rw [ExtendedMantissa.roundedMantissa]
  rcases em.accuracy with _ | (_ | _ | _) <;> simp only [Accuracy.roundToNearestEven] <;> omega

theorem targetExponent_eq (total : ℤ) :
    Format.binary64.targetExponent total = max (total - 53) (-1074) := rfl

def excess (mantissa : ℕ) (exponent : ℤ) : ℕ :=
  (max (mantissa.log2 + 1 + exponent - 53) (-1074) - exponent).toNat

/-- A mantissa loses its excess and is rounded up by one at most; what this adds is shifted out. -/
theorem roundWithAccuracy_eq (sign : Sign) (mantissa : ℕ) (exponent : ℤ) (accuracy : Accuracy) :
    ∃ rounded, mantissa / 2 ^ excess mantissa exponent ≤ rounded ∧
      rounded ≤ mantissa / 2 ^ excess mantissa exponent + 1 ∧
      let shifted := exponent + excess mantissa exponent
      let final := rounded / 2 ^ excess rounded shifted
      UnpackedFloat.roundWithAccuracy .binary64 sign mantissa exponent accuracy =
        if h : final = 0 then .zero sign
        else .finite sign final (shifted + excess rounded shifted) (Nat.pos_of_ne_zero h) := by
  obtain ⟨lower, upper⟩ := roundedMantissa_bounds
    (ExtendedMantissa.ofMantissaAndAccuracy mantissa accuracy >>> excess mantissa exponent)
  rw [mantissa_shiftRight, mantissa_ofMantissaAndAccuracy] at lower upper
  refine ⟨_, lower, upper, ?_⟩
  simp only [UnpackedFloat.roundWithAccuracy, UnpackedFloat.shiftToTargetExponent,
    UnpackedFloat.shiftToExponent, mantissa_shiftRight, mantissa_ofMantissaAndAccuracy]
  rfl

theorem Fits.shift (fits : Fits k mantissa exponent) {n : ℕ} (room : exponent + n ≤ k) :
    Fits k (mantissa / 2 ^ n) (exponent + n) := by
  constructor
  · exact room
  · rw [Nat.div_lt_iff_lt_mul (Nat.two_pow_pos n), ← Nat.pow_add]
    have exponents : (k - (exponent + n)).toNat + n = (k - exponent).toNat := by omega
    rw [exponents]
    exact fits.mantissa_lt

/-- A mantissa that is cut to its length ends below the bound. -/
theorem Fits.excess_le (fits : Fits k mantissa exponent) (least : -1074 ≤ k) :
    exponent + excess mantissa exponent ≤ k := by
  obtain ⟨room, bound⟩ := fits
  rw [excess]
  by_cases zero : mantissa = 0
  · subst zero
    simp only [Nat.log2_zero]
    omega
  · have log := (Nat.log2_lt zero).mpr bound
    omega

theorem Fits.shiftLeft (fits : Fits k mantissa exponent) (n : ℕ) :
    Fits k (mantissa <<< n) (exponent - n) := by
  obtain ⟨room, bound⟩ := fits
  constructor
  · omega
  · have exponents : (k - (exponent - n)).toNat = (k - exponent).toNat + n := by omega
    rw [exponents, Nat.pow_add, Nat.shiftLeft_eq]
    exact Nat.mul_lt_mul_of_pos_right bound (Nat.two_pow_pos n)

theorem natAbs_apply (sign : Sign) (n : ℕ) : (sign.apply n).natAbs = n := by
  cases sign with
  | negative => exact Int.natAbs_neg n
  | positive => rfl

/-- A sum has at most one bit more than its terms. -/
theorem Fits.add (left : Fits k mantissa exponent) {other : ℕ} (right : Fits k other exponent)
    (s t : Sign) : Fits (k + 1) (s.apply mantissa + t.apply other).natAbs exponent := by
  obtain ⟨room, leftBound⟩ := left
  obtain ⟨-, rightBound⟩ := right
  have size := Int.natAbs_add_le (s.apply mantissa) (t.apply other)
  rw [natAbs_apply, natAbs_apply] at size
  constructor
  · omega
  · have exponents : (k + 1 - exponent).toNat = (k - exponent).toNat + 1 := by omega
    rw [exponents, Nat.pow_succ]
    omega

/-- Rounding may reach the next power of two. -/
theorem Fits.round_up (fits : Fits k mantissa exponent) {rounded : ℕ} (up : rounded ≤ mantissa + 1) :
    Fits (k + 1) rounded exponent := by
  obtain ⟨room, bound⟩ := fits
  constructor
  · omega
  · have exponents : (k + 1 - exponent).toNat = (k - exponent).toNat + 1 := by omega
    rw [exponents, Nat.pow_succ]
    have positive := Nat.two_pow_pos (k - exponent).toNat
    omega

end Rounding

/-! ## Bounds from above -/

def Below (k : ℤ) : UnpackedFloat → Prop
  | .zero _ => True
  | .finite _ mantissa exponent _ => Fits k mantissa exponent
  | .infinity _ | .notANumber => False

namespace Below

variable {k : ℤ} {u v : UnpackedFloat} {sign : Sign} {mantissa : ℕ} {exponent : ℤ}
variable {accuracy : Accuracy}

theorem roundWithAccuracy (fits : Fits k mantissa exponent) (least : -1074 ≤ k) :
    Below (k + 1) (UnpackedFloat.roundWithAccuracy .binary64 sign mantissa exponent accuracy) := by
  obtain ⟨rounded, -, upper, whole⟩ := roundWithAccuracy_eq sign mantissa exponent accuracy
  have first := (fits.shift (fits.excess_le least)).round_up upper
  have second := first.shift (first.excess_le (by omega))
  rw [whole]
  split
  · trivial
  · exact second

theorem normalize {m : ℤ} (fits : Fits k m.natAbs exponent) (least : -1074 ≤ k) :
    Below (k + 1) (UnpackedFloat.normalize .binary64 m exponent sign) := by
  rw [UnpackedFloat.normalize]
  split
  next compared =>
    have negative := Int.compare_eq_lt.mp compared
    have size : m.natAbs = (-m).toNat := by omega
    rw [size] at fits
    exact roundWithAccuracy (fits.shiftLeft _) least
  next => trivial
  next compared =>
    have positive := Int.compare_eq_gt.mp compared
    have size : m.natAbs = m.toNat := by omega
    rw [size] at fits
    exact roundWithAccuracy (fits.shiftLeft _) least

theorem isFinite (below : Below k u) : u.isFinite = true := by
  cases u with
  | infinity | notANumber => cases below
  | zero | finite => rfl

theorem mono {l : ℤ} (below : Below k u) (le : k ≤ l) : Below l u := by
  cases u with
  | zero => trivial
  | infinity | notANumber => cases below
  | finite sign mantissa exponent positive =>
    obtain ⟨room, bound⟩ := below
    constructor
    · omega
    · exact bound.trans_le (Nat.pow_le_pow_right Nat.two_pos (by omega))

theorem neg (below : Below k u) : Below k u.neg := by
  cases u <;> exact below

/-- One bit for the carry and one for rounding. -/
theorem add (left : Below k u) (right : Below k v) (least : -1074 ≤ k) :
    Below (k + 2) (UnpackedFloat.add .binary64 u v) := by
  cases u with
  | infinity | notANumber => cases left
  | zero s =>
    cases v with
    | infinity | notANumber => cases right
    | zero t => cases s <;> cases t <;> trivial
    | finite => exact right.mono (by omega)
  | finite s m e mPositive =>
    cases v with
    | infinity | notANumber => cases right
    | zero => exact left.mono (by omega)
    | finite t n d nPositive =>
      -- both mantissas are brought to the smaller exponent and added
      have first := Fits.shiftLeft left (e - min e d).toNat
      have second := Fits.shiftLeft right (d - min e d).toNat
      have eLeast : e - (e - min e d).toNat = min e d := by omega
      have dLeast : d - (d - min e d).toNat = min e d := by omega
      rw [eLeast] at first
      rw [dLeast] at second
      have bounded : Below (k + 1 + 1) (UnpackedFloat.add .binary64 (.finite s m e mPositive)
        (.finite t n d nPositive)) := normalize (first.add second s t) (by omega)
      rwa [Int.add_assoc] at bounded

theorem sub (left : Below k u) (right : Below k v) (least : -1074 ≤ k) :
    Below (k + 2) (UnpackedFloat.sub .binary64 u v) := by
  rw [unpacked_sub_eq_add_neg]
  exact left.add right.neg least

theorem mul_self (below : Below k u) (least : -537 ≤ k) :
    Below (2 * k + 1) (UnpackedFloat.mul .binary64 u u) := by
  cases u with
  | infinity | notANumber => cases below
  | zero => trivial
  | finite sign m e positive =>
    obtain ⟨room, bound⟩ := below
    refine roundWithAccuracy ⟨by omega, ?_⟩ (by omega)
    have exponents : (2 * k - (e + e)).toNat = (k - e).toNat + (k - e).toNat := by omega
    rw [exponents, Nat.pow_add]
    exact Nat.mul_lt_mul'' bound bound

theorem sqrt (below : Below (2 * k) u) (unsigned : Unsigned u) (least : -1074 ≤ k) :
    Below (k + 1) (UnpackedFloat.sqrt .binary64 u) := by
  cases u with
  | infinity | notANumber => cases below
  | zero => trivial
  | finite sign m e positive =>
    cases unsigned
    obtain ⟨room, bound⟩ := below
    simp only [UnpackedFloat.sqrt, UnpackedFloat.sqrtCore]
    generalize Format.binary64.targetExponent _ = wanted
    change Below (k + 1) (UnpackedFloat.roundWithAccuracy _ _ _ (min (e / 2) wanted) _)
    refine roundWithAccuracy ⟨by omega, ?_⟩ least
    have exponents : (2 * k - e).toNat + (e - 2 * min (e / 2) wanted).toNat =
        (k - min (e / 2) wanted).toNat + (k - min (e / 2) wanted).toNat := by omega
    rw [Nat.sqrt_lt, ← Nat.pow_add, ← exponents, Nat.pow_add, Nat.shiftLeft_eq]
    exact Nat.mul_lt_mul_of_pos_right bound (Nat.two_pow_pos _)

end Below

/-! ## Stored results -/

section Stored

variable {k : ℤ} {u : UnpackedFloat} {sign : Sign} {mantissa : ℕ} {exponent : ℤ}

theorem stored_finite (positive : 0 < mantissa) (most : exponent ≤ 971) :
    stored (.finite sign mantissa exponent positive) =
      UnpackedFloat.unpack .binary64 (UnpackedFloat.packComponents .binary64 sign
        (if mantissa.log2 = 52 then .ofNat _ (exponent + 1075).toNat else 0#_) (.ofNat _ mantissa)) := by
  have bias : (Format.binary64.exponentBias : ℤ) = 1023 := rfl
  have width : (Format.binary64.mantissaBitsWithoutImplicit : ℤ) = 52 := rfl
  have inRange : ¬ 2 ^ Format.binary64.exponentBits ≤
      (exponent + Format.binary64.exponentBias +
        Format.binary64.mantissaBitsWithoutImplicit).toNat + 1 := by
    rw [bias, width]
    change ¬ 2048 ≤ _
    omega
  -- a mantissa of all places is one with the hidden bit
  have full : mantissa.log2 + 1 = Format.binary64.mantissaBits ↔ mantissa.log2 = 52 := by
    change mantissa.log2 + 1 = 53 ↔ _
    omega
  have biased : (exponent + Format.binary64.exponentBias +
      Format.binary64.mantissaBitsWithoutImplicit).toNat = (exponent + 1075).toNat := by
    rw [bias, width, Int.add_assoc]
    rfl
  simp only [stored, UnpackedFloat.pack, if_neg inRange]
  rw [biased]
  by_cases normal : mantissa.log2 = 52
  · rw [if_pos normal, if_pos (full.mpr normal)]
  · rw [if_neg normal, if_neg (mt full.mp normal)]

/-- A full mantissa within the range of the format is stored as it is. -/
theorem stored_full (positive : 0 < mantissa) (full : 2 ^ 52 ≤ mantissa) (short : mantissa < 2 ^ 53)
    (least : -1074 ≤ exponent) (most : exponent ≤ 971) :
    stored (.finite sign mantissa exponent positive) = .finite sign mantissa exponent positive := by
  have log : mantissa.log2 = 52 := (Nat.log2_eq_iff positive.ne').mpr ⟨full, short⟩
  rw [stored_finite positive most, if_pos log, unpack_packComponents, BitVec.toNat_ofNat,
    BitVec.toNat_ofNat]
  have biased : (exponent + 1075).toNat % 2 ^ Format.binary64.exponentBits =
      (exponent + 1075).toNat := Nat.mod_eq_of_lt (by change _ < 2048; omega)
  have hidden : 2 ^ 52 + mantissa % 2 ^ Format.binary64.mantissaBitsWithoutImplicit = mantissa := by
    change 2 ^ 52 + mantissa % 2 ^ 52 = mantissa
    omega
  rw [biased, if_neg (by omega), if_neg (by omega)]
  simp only [hidden, UnpackedFloat.finite.injEq, true_and]
  omega

/-- A word with an empty exponent stands for a number below the least normal one. -/
theorem below_of_subnormal (least : -1022 ≤ k) (sign : Sign)
    {exponent : BitVec Format.binary64.exponentBits} (empty : exponent.toNat = 0)
    (places : BitVec Format.binary64.mantissaBitsWithoutImplicit) :
    Below k (UnpackedFloat.unpack .binary64
      (UnpackedFloat.packComponents .binary64 sign exponent places)) := by
  rw [unpack_packComponents, if_neg (by omega), if_pos empty]
  split
  · trivial
  · have room : -1074 ≤ k := by omega
    have width : Format.binary64.mantissaBitsWithoutImplicit ≤ (k - -1074).toNat := by
      change 52 ≤ _
      omega
    exact ⟨room, places.isLt.trans_le (Nat.pow_le_pow_right Nat.two_pos width)⟩

/-- Storing keeps a number that is far from overflow below its bound. -/
theorem Below.stored (below : Below k u) (least : -1022 ≤ k) (most : k ≤ 971) :
    Below k (stored u) := by
  cases u with
  | infinity | notANumber => cases below
  | zero sign =>
    rw [stored_zero]
    trivial
  | finite sign mantissa exponent positive =>
    obtain ⟨room, bound⟩ := below
    by_cases full : mantissa.log2 = 52 ∧ -1074 ≤ exponent
    · obtain ⟨long, short⟩ := (Nat.log2_eq_iff positive.ne').mp full.1
      rw [stored_full positive long short full.2 (room.trans most)]
      exact ⟨room, bound⟩
    · rw [stored_finite positive (room.trans most)]
      -- everything else is stored at the least exponent
      apply below_of_subnormal least
      split
      next long =>
        have tooSmall := not_and.mp full long
        have negative : exponent + 1075 ≤ 0 := by omega
        rw [Int.toNat_of_nonpos negative]
        rfl
      next => rfl

end Stored

/-! ## Numbers as words give them -/

/-- A word gives a short mantissa at an exponent of the format. -/
theorem short_of_value {x : Float} {sign : Sign} {mantissa : ℕ} {exponent : ℤ}
    {positive : 0 < mantissa} (known : value x = .finite sign mantissa exponent positive) :
    mantissa < 2 ^ 53 ∧ -1074 ≤ exponent := by
  let word : BitVec Format.binary64.numBits := x.toModel.toBits.toBitVec
  have parts := UnpackedFloat.packComponents_unpackSign_unpackExponent_unpackMantissa word
  have places : (UnpackedFloat.unpackMantissa word).toNat < 2 ^ 52 :=
    (UnpackedFloat.unpackMantissa word).isLt
  change UnpackedFloat.unpack .binary64 word = _ at known
  rw [← parts, unpack_packComponents] at known
  -- by the exponent of the word: full, empty, or with a hidden bit
  split at known
  · split at known <;> cases known
  · split at known
    · split at known
      · cases known
      · cases known
        omega
    · cases known
      omega

/-! ## Bounds from below -/

/-- A positive number with a full mantissa at an exponent no less than `l`. -/
def Sizable (l : ℤ) : UnpackedFloat → Prop
  | .finite .positive mantissa exponent _ =>
    2 ^ 52 ≤ mantissa ∧ mantissa < 2 ^ 53 ∧ l ≤ exponent
  | _ => False

namespace Sizable

variable {k l : ℤ} {u v : UnpackedFloat} {mantissa : ℕ} {exponent : ℤ} {accuracy : Accuracy}

theorem excess_of_full (full : 2 ^ 52 ≤ mantissa) (least : -1074 ≤ exponent) :
    excess mantissa exponent = mantissa.log2 - 52 := by
  have log : 52 ≤ mantissa.log2 := (Nat.le_log2 (by omega)).mpr full
  rw [excess]
  omega

theorem cut_of_full (full : 2 ^ 52 ≤ mantissa) :
    2 ^ 52 ≤ mantissa / 2 ^ (mantissa.log2 - 52) ∧ mantissa / 2 ^ (mantissa.log2 - 52) < 2 ^ 53 := by
  have log : 52 ≤ mantissa.log2 := (Nat.le_log2 (by omega)).mpr full
  obtain ⟨long, short⟩ := (Nat.log2_eq_iff (by omega)).mp (rfl : mantissa.log2 = _)
  have all : 52 + (mantissa.log2 - 52) = mantissa.log2 := by omega
  have oneMore : 53 + (mantissa.log2 - 52) = mantissa.log2 + 1 := by omega
  rw [Nat.le_div_iff_mul_le (Nat.two_pow_pos _), Nat.div_lt_iff_lt_mul (Nat.two_pow_pos _),
    ← Nat.pow_add, ← Nat.pow_add, all, oneMore]
  exact ⟨long, short⟩

/-- What fills a mantissa still fills it after rounding. -/
theorem roundWithAccuracy (full : 2 ^ 52 ≤ mantissa) (least : -1074 ≤ exponent)
    (above : l ≤ exponent) :
    Sizable l (UnpackedFloat.roundWithAccuracy .binary64 .positive mantissa exponent accuracy) := by
  obtain ⟨rounded, lower, -, whole⟩ := roundWithAccuracy_eq .positive mantissa exponent accuracy
  have roundedFull : 2 ^ 52 ≤ rounded := by
    rw [excess_of_full full least] at lower
    exact (cut_of_full full).1.trans lower
  have shiftedLeast : -1074 ≤ exponent + excess mantissa exponent := by omega
  have final := excess_of_full roundedFull shiftedLeast
  obtain ⟨long, short⟩ := cut_of_full roundedFull
  rw [whole, final, dif_neg (by omega)]
  refine ⟨long, short, ?_⟩
  omega

/-- A root has half the places of what it is taken of. -/
theorem root_full (positive : 0 < mantissa) {half : ℤ}
    (places : 2 * half ≤ mantissa.log2 + exponent - 104) :
    2 ^ 52 ≤ Nat.sqrt (mantissa <<< (exponent - 2 * half).toNat) := by
  rw [Nat.le_sqrt, Nat.shiftLeft_eq, ← Nat.pow_add]
  calc 2 ^ (52 + 52) ≤ 2 ^ (mantissa.log2 + (exponent - 2 * half).toNat) :=
        Nat.pow_le_pow_right Nat.two_pos (by omega)
    _ = 2 ^ mantissa.log2 * 2 ^ (exponent - 2 * half).toNat := Nat.pow_add ..
    _ ≤ mantissa * 2 ^ (exponent - 2 * half).toNat :=
        Nat.mul_le_mul_right _ (Nat.log2_self_le positive.ne')

theorem sqrt {positive : 0 < mantissa} (least : -1074 ≤ exponent) :
    Sizable (-589)
      (UnpackedFloat.sqrt .binary64 (.finite .positive mantissa exponent positive)) := by
  have places :
      2 * min (exponent / 2) (max ((mantissa.log2 + 1 + exponent + 1 : ℤ) / 2 - 53) (-1074)) ≤
        mantissa.log2 + exponent - 104 := by omega
  have lower : -589 ≤
      min (exponent / 2) (max ((mantissa.log2 + 1 + exponent + 1 : ℤ) / 2 - 53) (-1074)) := by omega
  simp only [UnpackedFloat.sqrt, UnpackedFloat.sqrtCore, targetExponent_eq,
    Float.Model.totalExponent]
  exact roundWithAccuracy (root_full positive places) (le_trans (by decide) lower) lower

theorem normalize {sign : Sign} (full : 2 ^ 52 ≤ mantissa) (least : -1074 ≤ exponent)
    (above : l ≤ exponent) :
    Sizable l (UnpackedFloat.normalize .binary64 mantissa exponent sign) := by
  have positive : (0 : ℤ) < mantissa := by omega
  have log : 52 ≤ mantissa.log2 := (Nat.le_log2 (by omega)).mpr full
  have kept : (exponent - max (mantissa.log2 + 1 + exponent - 53 : ℤ) (-1074)).toNat = 0 := by omega
  rw [UnpackedFloat.normalize, Int.compare_eq_gt.mpr positive]
  simp only [UnpackedFloat.round, UnpackedFloat.decreaseExponent, targetExponent_eq,
    Float.Model.totalExponent, Int.toNat_natCast, kept]
  exact roundWithAccuracy full (by omega) (by omega)

theorem add (left : Sizable l u) (right : Sizable l v) (least : -1074 ≤ l) :
    Sizable l (UnpackedFloat.add .binary64 u v) := by
  cases u with
  | infinity | notANumber | zero => cases left
  | finite s m e mPositive =>
    cases v with
    | infinity | notANumber | zero => cases right
    | finite t n d nPositive =>
      cases s with
      | negative => cases left
      | positive =>
        cases t with
        | negative => cases right
        | positive =>
          obtain ⟨full, -, mAbove⟩ := left
          obtain ⟨-, -, nAbove⟩ := right
          simp only [UnpackedFloat.add, UnpackedFloat.decreaseExponent, Sign.apply, ← Int.natCast_add]
          refine normalize ?_ (by omega) (by omega)
          rw [Nat.shiftLeft_eq]
          have grown := Nat.le_mul_of_pos_right m (Nat.two_pow_pos (e - min e d).toNat)
          exact full.trans (grown.trans (Nat.le_add_right _ _))

theorem zero_add {s : Sign} (sizable : Sizable l v) :
    UnpackedFloat.add .binary64 (.zero s) v = v := by
  cases v with
  | infinity | notANumber | zero => cases sizable
  | finite => rfl

/-- What is sizable and not too large is stored as it is. -/
theorem stored_eq (sizable : Sizable l u) (least : -1074 ≤ l) (below : Below k u) (most : k ≤ 971) :
    stored u = u := by
  rcases u with _ | _ | _ | ⟨_ | _, m, e, positive⟩
  case finite.positive =>
    obtain ⟨full, short, above⟩ := sizable
    exact stored_full positive full short (least.trans above) (below.exponent_le.trans most)
  all_goals cases sizable

/-- Dividing by what is sizable adds no more than the places that are missing to it. -/
theorem div_below (dividend : Below k u) (divisor : Sizable l v) (least : -1074 ≤ k - 52 - l) :
    Below (k - 51 - l) (UnpackedFloat.div .binary64 u v) := by
  rcases v with _ | _ | _ | ⟨_ | _, n, d, nPositive⟩
  case finite.positive =>
    obtain ⟨full, short, above⟩ := divisor
    cases u with
    | infinity | notANumber => cases dividend
    | zero => trivial
    | finite s m e mPositive =>
      obtain ⟨room, bound⟩ := dividend
      simp only [UnpackedFloat.div, UnpackedFloat.divCore, targetExponent_eq,
        Float.Model.totalExponent]
      have next : k - 51 - l = k - 52 - l + 1 := by omega
      rw [next]
      have dividendLog := (Nat.log2_lt mPositive.ne').mpr bound
      have divisorLog : n.log2 = 52 := (Nat.log2_eq_iff nPositive.ne').mpr ⟨full, short⟩
      rw [divisorLog]
      generalize target : min (e - d)
        (max (m.log2 + 1 + e - ((52 : ℕ) + 1 + d) - 53 : ℤ) (-1074)) = quotientExponent
      apply Below.roundWithAccuracy _ least
      constructor
      · omega
      · -- the dividend has at most as many places as quotient and divisor together
        apply Nat.div_lt_of_lt_mul
        rw [Nat.shiftLeft_eq]
        calc m * 2 ^ (e - d - quotientExponent).toNat
            < 2 ^ (k - e).toNat * 2 ^ (e - d - quotientExponent).toNat :=
              Nat.mul_lt_mul_of_pos_right bound (Nat.two_pow_pos _)
          _ = 2 ^ ((k - e).toNat + (e - d - quotientExponent).toNat) := (Nat.pow_add ..).symm
          _ ≤ 2 ^ (52 + (k - 52 - l - quotientExponent).toNat) :=
              Nat.pow_le_pow_right Nat.two_pos (by omega)
          _ = 2 ^ 52 * 2 ^ (k - 52 - l - quotientExponent).toNat := Nat.pow_add ..
          _ ≤ n * 2 ^ (k - 52 - l - quotientExponent).toNat := Nat.mul_le_mul_right _ full
  all_goals cases divisor

end Sizable

/-! ## What is no number -/

section Numbers

variable {format : Format} {u v : UnpackedFloat}

theorem isNaN_roundWithAccuracy (sign : Sign) (mantissa : ℕ) (exponent : ℤ) (accuracy : Accuracy) :
    (UnpackedFloat.roundWithAccuracy format sign mantissa exponent accuracy).isNaN = false := by
  simp only [UnpackedFloat.roundWithAccuracy]
  split <;> rfl

theorem isNaN_normalize (mantissa exponent : ℤ) (sign : Sign) :
    (UnpackedFloat.normalize format mantissa exponent sign).isNaN = false := by
  rw [UnpackedFloat.normalize]
  split
  · exact isNaN_roundWithAccuracy _ _ _ _
  · rfl
  · exact isNaN_roundWithAccuracy _ _ _ _

/-- A stored number keeps its sign. -/
theorem stored_finite_cases (sign : Sign) {mantissa : ℕ} (exponent : ℤ) (positive : 0 < mantissa) :
    stored (.finite sign mantissa exponent positive) = .infinity sign ∨
      stored (.finite sign mantissa exponent positive) = .zero sign ∨
      ∃ m e p, stored (.finite sign mantissa exponent positive) = .finite sign m e p := by
  -- whatever fields are packed, they are unpacked with their sign
  have components (bits : BitVec Format.binary64.exponentBits)
      (places : BitVec Format.binary64.mantissaBitsWithoutImplicit) (inRange : bits.toNat ≠ 2047) :
      let u := UnpackedFloat.unpack .binary64 (UnpackedFloat.packComponents .binary64 sign bits places)
      u = .infinity sign ∨ u = .zero sign ∨ ∃ m e p, u = .finite sign m e p := by
    simp only [unpack_packComponents, if_neg inRange]
    split
    · split
      next => exact .inr (.inl rfl)
      next some => exact .inr (.inr ⟨_, _, Nat.pos_of_ne_zero some, rfl⟩)
    · exact .inr (.inr ⟨_, _, by positivity, rfl⟩)
  simp only [stored, UnpackedFloat.pack]
  split
  next => exact .inl (stored_infinity sign)
  next fits =>
    split
    · apply components
      rw [BitVec.toNat_ofNat]
      change ¬ 2048 ≤ _ at fits
      change _ % 2048 ≠ 2047
      omega
    · exact components _ _ (by decide)

/-- Storing neither makes numbers of what are none, nor the other way round. -/
theorem isNaN_stored (u : UnpackedFloat) : (stored u).isNaN = u.isNaN := by
  cases u with
  | notANumber => rw [stored_notANumber]
  | infinity sign => rw [stored_infinity]
  | zero sign => rw [stored_zero]
  | finite sign mantissa exponent positive =>
    obtain same | same | ⟨_, _, _, same⟩ := stored_finite_cases sign exponent positive <;>
      rw [same] <;> rfl

theorem unsigned_stored (unsigned : Unsigned u) : Unsigned (stored u) := by
  cases u with
  | notANumber | infinity | zero => simpa using unsigned
  | finite sign mantissa exponent positive =>
    obtain same | same | ⟨_, _, _, same⟩ := stored_finite_cases sign exponent positive <;>
      rw [same] <;> exact unsigned

end Numbers

/-! ## Lengths -/

/-- What a length can be: zero, positive or infinite, but not negative and always a number. -/
structure Length (x : Float) : Prop where
  unsigned : Unsigned (value x)
  number : Scalar.isNaN x = false

section Lengths

variable {x y : Float}

theorem Length.cases (length : Length x) :
    value x = .zero .positive ∨ value x = .infinity .positive ∨
      ∃ mantissa exponent positive, value x = .finite .positive mantissa exponent positive := by
  obtain ⟨unsigned, number⟩ := length
  rw [isNaN_eq] at number
  cases known : value x with
  | notANumber =>
    rw [known] at number
    cases number
  | infinity sign | zero sign =>
    rw [known] at unsigned
    cases unsigned
    simp
  | finite sign mantissa exponent positive =>
    rw [known] at unsigned
    cases unsigned
    exact .inr (.inr ⟨mantissa, exponent, positive, rfl⟩)

theorem finite_cases (finite : Scalar.isFinite x = true) :
    (∃ sign, value x = .zero sign) ∨
      ∃ sign mantissa exponent positive, value x = .finite sign mantissa exponent positive := by
  rw [isFinite_eq] at finite
  cases known : value x with
  | notANumber | infinity =>
    rw [known] at finite
    cases finite
  | zero sign => exact .inl ⟨sign, rfl⟩
  | finite sign mantissa exponent positive =>
    exact .inr ⟨sign, mantissa, exponent, positive, rfl⟩

/-- Finite numbers may be too far apart, but their difference is a number. -/
theorem isNaN_sub (xFinite : Scalar.isFinite x = true) (yFinite : Scalar.isFinite y = true) :
    Scalar.isNaN (x - y) = false := by
  rw [isNaN_eq, value_sub, isNaN_stored]
  obtain ⟨s, xIs⟩ | ⟨s, m, e, p, xIs⟩ := finite_cases xFinite <;>
    obtain ⟨t, yIs⟩ | ⟨t, n, d, q, yIs⟩ := finite_cases yFinite <;> rw [xIs, yIs]
  · cases s <;> cases t <;> rfl
  · rfl
  · rfl
  · exact isNaN_normalize _ _ _

theorem length_square (number : Scalar.isNaN x = false) : Length (Scalar.square x) where
  unsigned := unsigned_stored (Unsigned.mul_self _)
  number := by
    rw [isNaN_eq] at number
    rw [isNaN_eq, Scalar.square, value_mul, isNaN_stored]
    revert number
    cases value x <;> intro number
    case notANumber => cases number
    case finite => exact isNaN_roundWithAccuracy _ _ _ _
    all_goals rfl

theorem Length.add (left : Length x) (right : Length y) : Length (x + y) where
  unsigned := unsigned_stored (left.unsigned.add right.unsigned)
  number := by
    rw [isNaN_eq, value_add, isNaN_stored]
    obtain xIs | xIs | ⟨m, e, p, xIs⟩ := left.cases <;>
      obtain yIs | yIs | ⟨n, d, q, yIs⟩ := right.cases <;> rw [xIs, yIs]
    case inr.inr.inr.inr => exact isNaN_normalize _ _ _
    all_goals rfl

theorem Length.sqrt (radicand : Length x) : Length (Float.sqrt x) where
  unsigned := unsigned_stored radicand.unsigned.sqrt
  number := by
    rw [isNaN_eq, value_sqrt, isNaN_stored]
    obtain known | known | ⟨m, e, p, known⟩ := radicand.cases <;> rw [known]
    · rfl
    · rfl
    · exact isNaN_roundWithAccuracy _ _ _ _

theorem value_zero : value 0.0 = .zero .positive := by
  have bits : (0.0 : Float) = Float.ofBits 0 := by decide +kernel
  rw [bits]
  rfl

theorem Length.le (length : Length x) : Scalar.le 0.0 x = true := by
  refine le_iff.mpr ⟨by decide +kernel, length.number, ?_⟩
  obtain known | known | ⟨m, e, p, known⟩ := length.cases <;> rw [value_zero, known]
  · exact (Prod.Lex.toLex_lt_toLex.mpr (.inl (by decide : (0 : ℤ) < 2))).le
  · exact (Prod.Lex.toLex_lt_toLex.mpr (.inl (by decide : (0 : ℤ) < 1))).le

theorem positive_of_infinity (infinite : value x = .infinity .positive) :
    Scalar.lt 0.0 x = true := by
  refine lt_iff.mpr ⟨by decide +kernel, ?_, ?_⟩
  · rw [isNaN_eq, infinite]
    rfl
  · rw [value_zero, infinite]
    exact Prod.Lex.toLex_lt_toLex.mpr (.inl (by decide : (0 : ℤ) < 2))

theorem level_abs (number : Scalar.isNaN x = false) :
    level (value (Scalar.abs x)) = level (value x).abs := by
  have zeroNumber : Scalar.isNaN (0.0 : Float) = false := by decide +kernel
  have negative : Scalar.lt x 0.0 = true ↔ level (value x) < toLex (0, toLex (0, 0)) := by
    rw [lt_iff, value_zero]
    exact ⟨fun less => less.2.2, fun below => ⟨number, zeroNumber, below⟩⟩
  rw [isNaN_eq] at number
  rw [Scalar.abs]
  simp only [negative, apply_ite value, value_neg_eq]
  generalize value x = u at number
  rcases u with (_ | _) | _ | (_ | _) | ⟨(_ | _), m, e, p⟩ <;>
    simp [level, UnpackedFloat.abs, UnpackedFloat.neg, UnpackedFloat.isNaN,
      Prod.Lex.toLex_lt_toLex] at number ⊢

theorem value_ne_zero (positive : Scalar.lt 0.0 x = true) (sign : Sign) : value x ≠ .zero sign := by
  intro zero
  have below := (lt_iff.mp positive).2.2
  rw [value_zero, zero] at below
  exact lt_irrefl _ below

/-! ## Roots and their sums -/

def RootSized (x : Float) : Prop := value x = .zero .positive ∨ Sizable (-589) (value x)

/-- A root is zero or far from the least numbers. -/
theorem rootSized_sqrt {k : ℤ} (radicand : Length x) (below : Below (2 * k) (value x))
    (least : -1074 ≤ k) (most : k ≤ 970) : RootSized (Float.sqrt x) := by
  rw [RootSized, value_sqrt]
  obtain known | known | ⟨m, e, p, known⟩ := radicand.cases
  · rw [known]
    exact .inl (stored_zero _)
  · rw [known] at below
    cases below
  · have rootBelow := below.sqrt radicand.unsigned least
    rw [known] at rootBelow ⊢
    have sizable : Sizable (-589) (UnpackedFloat.sqrt .binary64 (.finite .positive m e p)) :=
      Sizable.sqrt (short_of_value known).2
    rw [sizable.stored_eq (by decide) rootBelow (by omega)]
    exact .inr sizable

theorem RootSized.add {k : ℤ} (left : RootSized x) (right : RootSized y)
    (below : Below k (.add .binary64 (value x) (value y))) (most : k ≤ 971) :
    RootSized (x + y) := by
  rw [RootSized, value_add]
  obtain xZero | xSizable := left
  · obtain yZero | ySizable := right
    · rw [xZero, yZero]
      exact .inl (stored_zero _)
    · rw [xZero, ySizable.zero_add, stored_value]
      exact .inr ySizable
  · obtain yZero | ySizable := right
    · rw [yZero, unpacked_add_comm, xSizable.zero_add, stored_value]
      exact .inr xSizable
    · have sizable := xSizable.add ySizable (by decide)
      rw [sizable.stored_eq (by decide) below most]
      exact .inr sizable

end Lengths

end DriverMonitor.Number
