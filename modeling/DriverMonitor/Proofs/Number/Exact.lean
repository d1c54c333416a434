import DriverMonitor.Proofs.Number.Sign
import DriverMonitor.Geometry.Scalar

/-! # Exact arithmetic

`Exact c` is a `Scalar` without rounding: sums, products, comparisons and square roots are those of the
real numbers, and every value is a number. What geometry says of exact numbers is said of the very
definitions that run over `Float`.

Two things are left open, as the parameter `c`: which functions take the place of the circular ones, and
what a quotient by zero is, which exact numbers do not have. Statements assume of them what they need.

A weight that leaves exact arithmetic is rounded to single precision. The finite words without a sign bit
are the numbers of ascending size, so rounding looks for the two words next to a number; a number that is
the value of a word comes back as that word, apart from the sign of a zero.
-/

namespace DriverMonitor.Number

/-! ## Words as real numbers -/

noncomputable def Reading.real : Reading → ℝ
  | .finite negative mantissa exponent => (if negative then -1 else 1) * (mantissa * 2 ^ exponent)
  | .infinite _ | .nan => 0

noncomputable def Single.real (x : Single) : ℝ := x.reading.real

/-- What the word with a given place stands for, its sign apart. The place of infinity is given the
number that would come next if there were longer exponents. -/
noncomputable def size (place : ℕ) : ℝ :=
  if place < 2 ^ 23 then place * 2 ^ (-149 : ℤ)
  else (2 ^ 23 + place % 2 ^ 23 : ℕ) * 2 ^ ((place / 2 ^ 23 : ℕ) - 150 : ℤ)

theorem size_zero : size 0 = 0 := by simp [size]

/-- The place of a finite word tells its size. -/
theorem size_finitePlace {mantissa : ℕ} {exponent : ℤ} (canonical : Canonical mantissa exponent) :
    size (finitePlace mantissa exponent) = mantissa * 2 ^ exponent := by
  obtain ⟨least, most, fits, full⟩ := canonical
  rw [size, finitePlace]
  split
  next short =>
    have lowest : exponent = -149 := by omega
    subst lowest
    norm_num
  next long =>
    have mantissaEq : 2 ^ 23 + ((exponent + 149).toNat * 2 ^ 23 + mantissa) % 2 ^ 23 = mantissa := by
      omega
    have exponentEq :
        ((((exponent + 149).toNat * 2 ^ 23 + mantissa) / 2 ^ 23 : ℕ) : ℤ) - 150 = exponent := by
      omega
    rw [mantissaEq, exponentEq]

theorem size_lt_succ (place : ℕ) : size place < size (place + 1) := by
  by_cases short : place + 1 < 2 ^ 23
  · rw [size, size, if_pos (by omega), if_pos short]
    push_cast
    have unit : (0 : ℝ) < 2 ^ (-149 : ℤ) := by positivity
    linarith
  by_cases last : place + 1 = 2 ^ 23
  · have before : place = 2 ^ 23 - 1 := by omega
    subst before
    rw [size, size, if_pos (by norm_num), if_neg (by norm_num)]
    norm_num
  rw [size, size, if_neg (by omega), if_neg short]
  by_cases inside : place % 2 ^ 23 + 1 < 2 ^ 23
  · have mantissa : (place + 1) % 2 ^ 23 = place % 2 ^ 23 + 1 := by omega
    have exponent : (place + 1) / 2 ^ 23 = place / 2 ^ 23 := by omega
    rw [mantissa, exponent]
    gcongr
    omega
  · -- the mantissa is full, so the next number has the least mantissa of the next exponent
    have mantissa : (place + 1) % 2 ^ 23 = 0 := by omega
    have exponent : (place + 1) / 2 ^ 23 = place / 2 ^ 23 + 1 := by omega
    have full : place % 2 ^ 23 = 2 ^ 23 - 1 := by omega
    have next : (((place / 2 ^ 23 + 1 : ℕ) : ℤ) - 150) = ((place / 2 ^ 23 : ℕ) - 150 : ℤ) + 1 := by
      push_cast
      ring
    rw [mantissa, exponent, full, next, zpow_add_one₀ (by norm_num)]
    have unit : (0 : ℝ) < 2 ^ ((place / 2 ^ 23 : ℕ) - 150 : ℤ) := by positivity
    generalize (2 : ℝ) ^ ((place / 2 ^ 23 : ℕ) - 150 : ℤ) = step at unit ⊢
    norm_num
    linarith

/-- Words further up stand for larger numbers. -/
theorem strictMono_size : StrictMono size := strictMono_nat_of_lt_succ size_lt_succ

/-! ## Rounding -/

/-- The place of the word nearest to a number that is not negative; in the middle between two words the
even one is taken. -/
noncomputable def nearestPlace (x : ℝ) : ℕ :=
  let below := Nat.findGreatest (fun place => size place ≤ x) 0x7f7fffff
  let middle := (size below + size (below + 1)) / 2
  if x < middle ∨ (x = middle ∧ Even below) then below else below + 1

noncomputable def nearest (x : ℝ) : Single :=
  ⟨.ofNat (nearestPlace |x| + if x < 0 then 2 ^ 31 else 0)⟩

/-- Of all words, the nearest to what a word stands for is this word. -/
theorem nearestPlace_size {place : ℕ} (finite : place < 0x7f800000) :
    nearestPlace (size place) = place := by
  have below : Nat.findGreatest (fun p => size p ≤ size place) 0x7f7fffff = place := by
    rw [Nat.findGreatest_eq_iff]
    refine ⟨by omega, fun _ => le_rfl, ?_⟩
    intro other above _
    exact not_le.mpr (strictMono_size above)
  have next := size_lt_succ place
  simp only [nearestPlace, below]
  rw [if_pos (.inl (by linarith))]

namespace Single

variable {w : Single}

/-- The same word, unless it is a zero: among exact numbers zero has no sign. -/
def unsignedZero (w : Single) : Single := if w.isNonzero then w else zero

theorem unsignedZero_of_ne (notNegative : w ≠ negativeZero) : w.unsignedZero = w := by
  rw [unsignedZero]
  split
  · rfl
  next isZero =>
    have lowest : w.place = 0 := by simpa [isNonzero_iff] using isZero
    have word := w.toNat_bits
    rw [lowest] at word
    cases sign : w.isNegative with
    | false =>
      have bits : w.bits = 0 := UInt32.toNat_inj.mp (by simp [word, sign])
      exact congrArg mk bits.symm
    | true =>
      have bits : w.bits = 0x80000000 := UInt32.toNat_inj.mp (by simp [word, sign])
      exact absurd (congrArg mk bits) notNegative

theorem real_eq_size (finite : w.IsFinite) :
    w.place < 0x7f800000 ∧ w.real = (if w.isNegative then -1 else 1) * size w.place := by
  obtain ⟨negative, mantissa, exponent, read⟩ := finite
  have reads := w.reads
  rw [real, read]
  rw [read] at reads
  cases reads with
  | finite canonical place =>
    rw [place, size_finitePlace canonical]
    exact ⟨canonical.finitePlace_lt, rfl⟩

theorem isFinite_of_place (inside : w.place < 0x7f800000) : w.IsFinite := by
  have reads := w.reads
  rw [IsFinite]
  generalize w.reading = read at reads ⊢
  cases reads with
  | finite => exact ⟨_, _, _, rfl⟩
  | infinite place => omega
  | nan place => omega

/-- Rounding brings back a finite word, but for the sign of a zero. -/
theorem nearest_real (finite : w.IsFinite) : nearest w.real = w.unsignedZero := by
  obtain ⟨inside, value⟩ := real_eq_size finite
  have word := w.toNat_bits
  have least : 0 ≤ size w.place := by
    rw [← size_zero]
    exact strictMono_size.monotone (Nat.zero_le _)
  have absolute : |w.real| = size w.place := by
    rw [value]
    split <;> simp [abs_of_nonneg least]
  rw [nearest, absolute, nearestPlace_size inside, unsignedZero]
  -- a zero is found again without its sign, any other word with it
  by_cases isZero : w.place = 0
  · have isZeroWord : ¬ w.isNonzero = true := by simp [isNonzero_iff, isZero]
    have notNegative : ¬ w.real < 0 := by simp [value, isZero, size_zero]
    rw [if_neg notNegative, if_neg isZeroWord, isZero]
    rfl
  · have positive : 0 < size w.place := by
      rw [← size_zero]
      exact strictMono_size (Nat.pos_of_ne_zero isZero)
    have sign : w.real < 0 ↔ w.isNegative = true := by
      rw [value]
      cases w.isNegative <;> simp [positive, least]
    rw [if_pos (isNonzero_iff.mpr isZero)]
    simp only [sign]
    have same : w.place + (if w.isNegative = true then 2 ^ 31 else 0) = w.bits.toNat := by
      rw [word]
      cases w.isNegative with
      | false => simp
      | true =>
        simp only [if_true, Bool.toNat_true]
        omega
    rw [same, UInt32.ofNat_toNat]

end Single

/-! ## The scalar -/

/-- What exact arithmetic leaves open. -/
structure ExactFunctions where
  sin : ℝ → ℝ
  cos : ℝ → ℝ
  atan : ℝ → ℝ
  atan2 : ℝ → ℝ → ℝ
  /-- The quotient of a number by zero. -/
  overZero : ℝ → ℝ

@[ext]
structure Exact (c : ExactFunctions) where
  real : ℝ

namespace Exact

variable {c : ExactFunctions}

noncomputable instance : Scalar (Exact c) where
  add x y := ⟨x.real + y.real⟩
  sub x y := ⟨x.real - y.real⟩
  mul x y := ⟨x.real * y.real⟩
  div x y := ⟨if y.real = 0 then c.overZero x.real else x.real / y.real⟩
  neg x := ⟨-x.real⟩
  ofScientific mantissa isNegative exponent := ⟨OfScientific.ofScientific mantissa isNegative exponent⟩
  ofNat n := ⟨n⟩
  ofSingle w := ⟨w.real⟩
  toSingle x := nearest x.real
  pi := ⟨Real.pi⟩
  sqrt x := ⟨√x.real⟩
  sin x := ⟨c.sin x.real⟩
  cos x := ⟨c.cos x.real⟩
  atan x := ⟨c.atan x.real⟩
  atan2 y x := ⟨c.atan2 y.real x.real⟩
  lt x y := decide (x.real < y.real)
  le x y := decide (x.real ≤ y.real)
  isNaN _ := false
  isFinite _ := true

variable (x y : Exact c)

@[simp] theorem real_add : (x + y).real = x.real + y.real := rfl

@[simp] theorem real_sub : (x - y).real = x.real - y.real := rfl

@[simp] theorem real_mul : (x * y).real = x.real * y.real := rfl

@[simp] theorem real_neg : (-x).real = -x.real := rfl

@[simp] theorem real_ofScientific (mantissa : ℕ) (isNegative : Bool) (exponent : ℕ) :
    (OfScientific.ofScientific mantissa isNegative exponent : Exact c).real =
      OfScientific.ofScientific mantissa isNegative exponent := rfl

theorem real_one : (1.0 : Exact c).real = 1 := by
  rw [real_ofScientific]
  norm_num

@[simp] theorem real_ofNat (n : ℕ) : (Scalar.ofNat n : Exact c).real = n := rfl

@[simp] theorem real_ofSingle (w : Single) : (Scalar.ofSingle w : Exact c).real = w.real := rfl

@[simp] theorem toSingle_eq : Scalar.toSingle x = nearest x.real := rfl

@[simp] theorem real_pi : (Scalar.pi : Exact c).real = Real.pi := rfl

@[simp] theorem real_sqrt : (Scalar.sqrt x).real = √x.real := rfl

@[simp] theorem real_sin : (Scalar.sin x).real = c.sin x.real := rfl

@[simp] theorem real_cos : (Scalar.cos x).real = c.cos x.real := rfl

@[simp] theorem real_atan : (Scalar.atan x).real = c.atan x.real := rfl

@[simp] theorem real_atan2 : (Scalar.atan2 y x).real = c.atan2 y.real x.real := rfl

@[simp] theorem lt_iff : Scalar.lt x y = true ↔ x.real < y.real := decide_eq_true_iff

@[simp] theorem le_iff : Scalar.le x y = true ↔ x.real ≤ y.real := decide_eq_true_iff

@[simp] theorem isFinite_eq : Scalar.isFinite x = true := rfl

variable {x y}

theorem real_div_eq :
    (x / y).real = if y.real = 0 then c.overZero x.real else x.real / y.real := rfl

/-- Only a divisor of zero is left open. -/
theorem real_div (nonzero : y.real ≠ 0) : (x / y).real = x.real / y.real := if_neg nonzero

@[simp] theorem real_square : (Scalar.square x).real = x.real ^ 2 := (pow_two x.real).symm

/-- Degrees are a positive multiple of radians. -/
theorem real_toDegrees : (Scalar.toDegrees x).real = x.real * (180 / Real.pi) := by
  have nonzero : (Scalar.pi : Exact c).real ≠ 0 := Real.pi_ne_zero
  rw [Scalar.toDegrees, real_mul, real_div nonzero, real_ofScientific, real_pi]
  norm_num

theorem sign_toDegrees : SignType.sign (Scalar.toDegrees x).real = SignType.sign x.real := by
  have factor : (0 : ℝ) < 180 / Real.pi := div_pos (by norm_num) Real.pi_pos
  rw [real_toDegrees, sign_mul, sign_pos factor, mul_one]

theorem real_foldl_add (terms : List (Exact c)) (start : Exact c) :
    (terms.foldl (· + ·) start).real = start.real + (terms.map real).sum := by
  induction terms generalizing start with
  | nil => simp
  | cons t rest ih =>
    rw [List.foldl_cons, ih, real_add, List.map_cons, List.sum_cons, add_assoc]

/-- Here it does not matter which zero a sum starts from. -/
theorem real_sum (terms : List (Exact c)) : (Scalar.sum terms).real = (terms.map real).sum := by
  rw [Scalar.sum, real_foldl_add, real_neg, real_ofScientific]
  norm_num

end Exact

/-! ## The circular functions of analysis -/

noncomputable def ExactFunctions.analytic : ExactFunctions where
  sin := Real.sin
  cos := Real.cos
  atan := Real.arctan
  atan2 y x := Complex.arg ⟨x, y⟩
  overZero _ := 0

def ExactFunctions.OfDirections (c : ExactFunctions) : Prop :=
  ∀ scale, 0 < scale → ∀ y x, c.atan2 (scale * y) (scale * x) = c.atan2 y x

def ExactFunctions.SignOfHeight (c : ExactFunctions) : Prop :=
  ∀ y x, y ≠ 0 → SignType.sign (c.atan2 y x) = SignType.sign y

def ExactFunctions.SignToTheRight (c : ExactFunctions) : Prop :=
  ∀ y x, 0 ≤ x → (y ≠ 0 ∨ x ≠ 0) → SignType.sign (c.atan2 y x) = SignType.sign y

def ExactFunctions.IsCircular (c : ExactFunctions) : Prop :=
  ∀ x, c.sin x ^ 2 + c.cos x ^ 2 = 1

namespace ExactFunctions

/-- The functions of analysis have this property and those below, so what is assumed of functions can be
met. -/
theorem analytic_isCircular : analytic.IsCircular := Real.sin_sq_add_cos_sq

theorem analytic_ofDirections : analytic.OfDirections := by
  intro scale positive y x
  have scaled : (⟨scale * x, scale * y⟩ : ℂ) = scale * ⟨x, y⟩ := by
    apply Complex.ext <;> simp
  simp only [analytic]
  rw [scaled, Complex.arg_real_mul _ positive]

theorem analytic_signOfHeight : analytic.SignOfHeight := by
  intro y x nonzero
  simp only [analytic]
  obtain below | above := nonzero.lt_or_gt
  · have negative : Complex.arg ⟨x, y⟩ < 0 := Complex.arg_neg_iff.mpr below
    rw [sign_neg negative, sign_neg below]
  · have notNegative : 0 ≤ Complex.arg ⟨x, y⟩ := Complex.arg_nonneg_iff.mpr above.le
    have notZero : Complex.arg ⟨x, y⟩ ≠ 0 := fun level =>
      nonzero (Complex.arg_eq_zero_iff.mp level).2
    rw [sign_pos (notNegative.lt_of_ne notZero.symm), sign_pos above]

theorem analytic_signToTheRight : analytic.SignToTheRight := by
  intro y x right _
  by_cases level : y = 0
  · have none : Complex.arg ⟨x, y⟩ = 0 := Complex.arg_eq_zero_iff.mpr ⟨right, level⟩
    simp only [analytic]
    rw [none, level, sign_zero]
  · exact analytic_signOfHeight y x level

end ExactFunctions

end DriverMonitor.Number
