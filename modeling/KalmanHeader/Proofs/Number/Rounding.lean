import Mathlib
import KalmanHeader.Number.Shortest
import KalmanHeader.Proofs.Number.Double

/-!
# Rounding a decimal number back

A fraction that is a double rounds to that double, and so does every decimal
number that `shortest` chooses. Decimal numbers and magnitudes are compared here
as rational numbers; moving trailing zeros into the exponent keeps that number.
-/

namespace KalmanHeader.Number

/-- A power with an integer exponent as a fraction of two powers. -/
theorem zpow_eq_div {base : ℚ} (nonzero : base ≠ 0) (exponent : ℤ) :
    base ^ exponent = base ^ exponent.toNat / base ^ (-exponent).toNat := by
  have split : exponent = (exponent.toNat : ℤ) - ((-exponent).toNat : ℤ) :=
    (Int.toNat_sub_toNat_neg exponent).symm
  nth_rewrite 1 [split]
  rw [zpow_sub₀ nonzero, zpow_natCast, zpow_natCast]

/-- The number that a magnitude stands for. -/
def Magnitude.value (magnitude : Magnitude) : ℚ :=
  magnitude.mantissa * 2 ^ magnitude.exponent

namespace Decimal

/-- The number that a decimal number stands for. -/
def value (decimal : Decimal) : ℚ :=
  decimal.digits * 10 ^ decimal.exponent

/-- The denominator of a decimal number is positive. -/
theorem denominator_pos (decimal : Decimal) : 0 < decimal.denominator :=
  Nat.pow_pos (by decide)

/-- A decimal number is the fraction of its numerator and its denominator. -/
theorem numerator_div_denominator (decimal : Decimal) :
    (decimal.numerator : ℚ) / decimal.denominator = decimal.value := by
  simp only [numerator, denominator, value, Nat.pow_eq, Nat.cast_mul, Nat.cast_pow,
    Nat.cast_ofNat]
  rw [zpow_eq_div (by norm_num) decimal.exponent, mul_div_assoc]

/-- Moving the trailing zeros into the exponent keeps the number. -/
theorem value_normalize (decimal : Decimal) : decimal.normalize.value = decimal.value := by
  fun_induction normalize with
  | case1 decimal zero => simp [value, zero]
  | case2 decimal nonzero whole ih =>
    have tenfold : (decimal.digits : ℚ) = (decimal.digits / 10 : Nat) * 10 := by
      exact_mod_cast (Nat.div_mul_cancel (Nat.dvd_of_mod_eq_zero whole)).symm
    rw [ih, value, value, zpow_add_one₀ (by norm_num), tenfold]
    ring
  | case3 decimal nonzero odd => rfl

/-- A number in normal form is its own normal form. -/
theorem normalize_normalize (decimal : Decimal) :
    decimal.normalize.normalize = decimal.normalize := by
  fun_induction normalize with
  | case1 decimal zero => rw [normalize, if_pos rfl]
  | case2 decimal nonzero whole ih => exact ih
  | case3 decimal nonzero odd => rw [normalize, if_neg nonzero, if_neg odd]

/-- A number without digits has the normal form zero. -/
theorem normalize_zero (exponent : Int) : normalize ⟨0, exponent⟩ = ⟨0, 0⟩ := by
  rw [normalize, if_pos rfl]

/-- Zeros at the end of the digits do not change the normal form. -/
theorem normalize_shift (digits zeros : Nat) (exponent : Int) :
    normalize ⟨digits * 10 ^ zeros, exponent - zeros⟩ = normalize ⟨digits, exponent⟩ := by
  rcases Nat.eq_zero_or_pos digits with rfl | positive
  · rw [Nat.zero_mul, normalize_zero, normalize_zero]
  · induction zeros generalizing exponent with
    | zero => rw [pow_zero, Nat.mul_one, Int.natCast_zero, Int.sub_zero]
    | succ zeros ih =>
      have nonzero : digits * 10 ^ (zeros + 1) ≠ 0 :=
        (Nat.mul_pos positive (Nat.pow_pos (by decide))).ne'
      have tenfold : digits * 10 ^ (zeros + 1) = digits * 10 ^ zeros * 10 := by ring
      have next : exponent - ((zeros + 1 : Nat) : Int) + 1 = exponent - zeros := by omega
      rw [normalize, if_neg nonzero, if_pos (by rw [tenfold]; exact Nat.mul_mod_left _ _)]
      rw [tenfold, Nat.mul_div_cancel _ (by decide), next]
      exact ih exponent

/-- The digits of a decimal number are at most as many as are counted. -/
theorem digits_lt (decimal : Decimal) :
    decimal.digits < 10 ^ digitCount decimal.digits :=
  (Nat.length_toDigits_le_iff (by decide) Nat.length_toDigits_pos).1 (Nat.le_refl _)

/-- The digits of a nonzero decimal number are as many as are counted. -/
theorem le_digits {decimal : Decimal} (nonzero : decimal.digits ≠ 0) :
    10 ^ (digitCount decimal.digits - 1) ≤ decimal.digits := by
  by_contra less
  rcases Nat.eq_zero_or_pos (digitCount decimal.digits - 1) with single | more
  · rw [single] at less
    omega
  · have fewer := (Nat.length_toDigits_le_iff (by decide) more).2 (Nat.lt_of_not_le less)
    change digitCount decimal.digits ≤ _ at fewer
    omega

/-- A decimal number is below the power of ten of its magnitude. -/
theorem value_lt (decimal : Decimal) : decimal.value < 10 ^ decimal.magnitude := by
  have digits : (decimal.digits : ℚ) < 10 ^ (digitCount decimal.digits) := by
    exact_mod_cast decimal.digits_lt
  rw [value, magnitude, add_comm, zpow_add₀ (by norm_num), zpow_natCast]
  exact mul_lt_mul_of_pos_right digits (zpow_pos (by norm_num) _)

/-- A nonzero decimal number is at least the power of ten one below its
magnitude. -/
theorem le_value {decimal : Decimal} (nonzero : decimal.digits ≠ 0) :
    10 ^ (decimal.magnitude - 1) ≤ decimal.value := by
  have digits : (10 : ℚ) ^ (digitCount decimal.digits - 1) ≤ decimal.digits := by
    exact_mod_cast le_digits nonzero
  have count : 0 < digitCount decimal.digits := Nat.length_toDigits_pos
  have exponent : decimal.magnitude - 1 =
      ((digitCount decimal.digits - 1 : Nat) : Int) + decimal.exponent := by
    rw [magnitude]
    omega
  rw [value, exponent, zpow_add₀ (by norm_num), zpow_natCast]
  exact mul_le_mul_of_nonneg_right digits (zpow_nonneg (by norm_num) _)

end Decimal

/-- The decimal number with all digits of a magnitude is that number. -/
theorem Magnitude.value_toDecimal (magnitude : Magnitude) :
    magnitude.toDecimal.value = magnitude.value := by
  unfold toDecimal
  split
  · rename_i whole
    have exponent : (magnitude.exponent.toNat : ℤ) = magnitude.exponent := Int.toNat_of_nonneg whole
    rw [Decimal.value, value]
    simp only
    rw [← exponent, zpow_natCast, zpow_zero, Int.toNat_natCast, Nat.pow_eq, mul_one, Nat.cast_mul,
      Nat.cast_pow, Nat.cast_ofNat]
  · rename_i fraction
    have exponent : magnitude.exponent = -((-magnitude.exponent).toNat : ℤ) := by omega
    rw [Decimal.value, value]
    simp only
    rw [exponent, neg_neg, Int.toNat_natCast, zpow_neg, zpow_neg, zpow_natCast, zpow_natCast,
      Nat.cast_mul, Nat.pow_eq, Nat.cast_pow, show (10 : ℚ) = 5 * 2 by norm_num, mul_pow]
    field_simp
    norm_num

section Nearest

variable {numerator denominator multiple bits : Nat} {exponent : ℤ}

/-- A fraction that is a multiple of a power of two, without fractions. -/
theorem scaled_eq (positive : 0 < denominator)
    (exact : (numerator : ℚ) / denominator = multiple * 2 ^ exponent) :
    numerator * 2 ^ (-exponent).toNat = multiple * (denominator * 2 ^ exponent.toNat) := by
  have divisor : (denominator : ℚ) ≠ 0 := by exact_mod_cast positive.ne'
  rw [zpow_eq_div (by norm_num) exponent, ← mul_div_assoc,
    div_eq_div_iff divisor (pow_ne_zero _ (by norm_num))] at exact
  have natural : numerator * 2 ^ (-exponent).toNat = multiple * 2 ^ exponent.toNat * denominator := by
    exact_mod_cast exact
  rw [natural, Nat.mul_assoc, Nat.mul_comm denominator]

/-- A power of two adds its exponent to the logarithm. -/
theorem log2_mul_two_pow (positive : 0 < multiple) (power : Nat) :
    (multiple * 2 ^ power).log2 = multiple.log2 + power := by
  have lower : 2 ^ multiple.log2 ≤ multiple := Nat.log2_self_le positive.ne'
  have upper : multiple < 2 ^ (multiple.log2 + 1) := Nat.lt_log2_self
  have scale : 0 < 2 ^ power := Nat.pow_pos (by decide)
  refine (Nat.log2_eq_iff (Nat.mul_pos positive scale).ne').2 ⟨?_, ?_⟩
  · rw [pow_add]
    exact Nat.mul_le_mul_right _ lower
  · rw [Nat.add_right_comm, pow_add]
    exact Nat.mul_lt_mul_of_pos_right upper scale

/-- The logarithm of a product is the sum of the logarithms or one more. -/
theorem log2_mul (positive : 0 < multiple) (positive' : 0 < denominator) :
    multiple.log2 + denominator.log2 ≤ (multiple * denominator).log2 ∧
      (multiple * denominator).log2 ≤ multiple.log2 + denominator.log2 + 1 := by
  have product : multiple * denominator ≠ 0 := (Nat.mul_pos positive positive').ne'
  constructor
  · rw [Nat.le_log2 product, pow_add]
    exact Nat.mul_le_mul (Nat.log2_self_le positive.ne') (Nat.log2_self_le positive'.ne')
  · apply Nat.le_of_lt_succ
    rw [Nat.log2_lt product]
    calc multiple * denominator < 2 ^ (multiple.log2 + 1) * 2 ^ (denominator.log2 + 1) :=
          Nat.mul_lt_mul'' Nat.lt_log2_self Nat.lt_log2_self
      _ = 2 ^ (multiple.log2 + denominator.log2 + 1 + 1) := by ring

/-- A fraction that is a positive multiple of a power of two is positive. -/
theorem numerator_pos (nonzero : 0 < multiple)
    (exact : (numerator : ℚ) / denominator = multiple * 2 ^ exponent) : 0 < numerator := by
  have positive : (0 : ℚ) < multiple * 2 ^ exponent :=
    mul_pos (by exact_mod_cast nonzero) (zpow_pos (by norm_num) _)
  refine Nat.pos_of_ne_zero ?_
  rintro rfl
  rw [Nat.cast_zero, zero_div] at exact
  exact positive.ne exact

/-- A fraction that is a multiple of a power of two is nearly as large as the
logarithms say. -/
theorem log2_fraction (positive : 0 < denominator) (nonzero : 0 < multiple)
    (exact : (numerator : ℚ) / denominator = multiple * 2 ^ exponent) :
    (multiple.log2 : ℤ) + exponent ≤ (numerator.log2 : ℤ) - denominator.log2 ∧
      (numerator.log2 : ℤ) - denominator.log2 ≤ multiple.log2 + exponent + 1 := by
  have natural := scaled_eq positive exact
  rw [← Nat.mul_assoc] at natural
  have product : 0 < multiple * denominator := Nat.mul_pos nonzero positive
  have logarithms := congrArg Nat.log2 natural
  rw [log2_mul_two_pow (numerator_pos nonzero exact), log2_mul_two_pow product] at logarithms
  obtain ⟨lower, upper⟩ := log2_mul nonzero positive
  omega

/-- The quotient of a multiple and one factor is the other factor, without
rounding. -/
theorem roundedQuotient_mul (positive : 0 < denominator) :
    roundedQuotient (multiple * denominator) denominator = multiple := by
  unfold roundedQuotient
  rw [Nat.mul_mod_left, Nat.mul_div_cancel _ positive, Nat.mul_zero,
    Nat.compare_eq_lt.2 positive]

/-- The estimate of the exponent is right or one too small, and then the mantissa
for the estimate is too large. -/
theorem estimate_of_value {mantissa : Nat} (positive : 0 < denominator) (nonzero : 0 < mantissa)
    (bounded : mantissa < 2 * hiddenBit) (least : -1074 ≤ exponent)
    (leading : -1074 < exponent → hiddenBit ≤ mantissa)
    (exact : (numerator : ℚ) / denominator = mantissa * 2 ^ exponent) :
    max (-1074) ((numerator.log2 : ℤ) - denominator.log2 - 53) = exponent ∨
      max (-1074) ((numerator.log2 : ℤ) - denominator.log2 - 53) = exponent - 1 ∧
        2 * hiddenBit ≤ 2 * mantissa := by
  obtain ⟨lower, upper⟩ := log2_fraction positive nonzero exact
  have short : mantissa.log2 < 53 := (Nat.log2_lt nonzero.ne').2 bounded
  by_cases above : -1074 < exponent
  · have long : 52 ≤ mantissa.log2 := (Nat.le_log2 nonzero.ne').2 (leading above)
    have large := leading above
    omega
  · omega

/-- A fraction that is a double rounds to that double. -/
theorem nearestBits_of_value (positive : 0 < denominator) (nonzero : 0 < bits)
    (finite : bits < infinityBits)
    (exact : (numerator : ℚ) / denominator = (Magnitude.ofBits bits).value) :
    nearestBits numerator denominator = bits := by
  have present : numerator ≠ 0 := (numerator_pos (mantissa_ofBits_pos nonzero) exact).ne'
  have pattern : _ = bits := pattern_ofBits
  have bounded : (Magnitude.ofBits bits).mantissa < 2 * hiddenBit := mantissa_ofBits_lt
  have estimate := estimate_of_value positive (mantissa_ofBits_pos nonzero) bounded
    le_exponent_ofBits hiddenBit_le_mantissa_ofBits exact
  rw [Magnitude.value] at exact
  generalize (Magnitude.ofBits bits).mantissa = mantissa at *
  generalize (Magnitude.ofBits bits).exponent = exponent at *
  have scaled := scaled_eq positive exact
  have divisor : ∀ power : Int, 0 < denominator * 2 ^ power.toNat := fun power =>
    Nat.mul_pos positive (Nat.pow_pos (by decide))
  have quotient : numerator * 2 ^ (-exponent).toNat / (denominator * 2 ^ exponent.toNat) =
      mantissa := by
    rw [scaled, Nat.mul_div_cancel _ (divisor _)]
  unfold nearestBits
  simp only [Nat.pow_eq, present, ↓reduceIte]
  have chosen : (if numerator * 2 ^ (-max (-1074) ((numerator.log2 : ℤ) - denominator.log2 - 53)).toNat /
        (denominator * 2 ^ (max (-1074) ((numerator.log2 : ℤ) - denominator.log2 - 53)).toNat) <
        2 * hiddenBit then max (-1074) ((numerator.log2 : ℤ) - denominator.log2 - 53)
      else max (-1074) ((numerator.log2 : ℤ) - denominator.log2 - 53) + 1) = exponent := by
    rcases estimate with right | ⟨low, large⟩
    · rw [right, quotient, if_pos bounded]
    · have half : (numerator : ℚ) / denominator = (2 * mantissa : Nat) * 2 ^ (exponent - 1) := by
        rw [exact, zpow_sub_one₀ (by norm_num)]
        push_cast
        ring
      rw [low, scaled_eq positive half, Nat.mul_div_cancel _ (divisor _),
        if_neg (Nat.not_lt.2 large), sub_add_cancel]
  rw [chosen, scaled, roundedQuotient_mul (divisor _), pattern]
  exact min_eq_right finite.le

end Nearest

section Shortest

variable {tie : Tie} {bits : Nat} {decimal : Decimal}

/-- The number of a finite pattern is neither too large nor too small for a
decimal number to be rounded to it. -/
theorem value_ofBits_bounds (nonzero : 0 < bits) (finite : bits < infinityBits) :
    (10 : ℚ) ^ (-331 : ℤ) ≤ (Magnitude.ofBits bits).value ∧
      (Magnitude.ofBits bits).value < 10 ^ (310 : ℤ) := by
  have positive : (1 : ℚ) ≤ (Magnitude.ofBits bits).mantissa := by
    exact_mod_cast mantissa_ofBits_pos nonzero
  have bounded : ((Magnitude.ofBits bits).mantissa : ℚ) ≤ 2 ^ 53 := by
    exact_mod_cast (@mantissa_ofBits_lt bits).le
  have least : (2 : ℚ) ^ (-1074 : ℤ) ≤ 2 ^ (Magnitude.ofBits bits).exponent :=
    zpow_le_zpow_right₀ (by norm_num) le_exponent_ofBits
  have greatest : (2 : ℚ) ^ (Magnitude.ofBits bits).exponent ≤ 2 ^ (971 : ℤ) :=
    zpow_le_zpow_right₀ (by norm_num) (exponent_ofBits_le finite)
  have tiny : (2 : ℚ) ^ 1074 ≤ 10 ^ 331 := by
    have natural : 2 ^ 1074 ≤ 10 ^ 331 := by decide +kernel
    exact_mod_cast natural
  have huge : (2 : ℚ) ^ 53 * 2 ^ 971 < 10 ^ 310 := by
    have natural : 2 ^ 53 * 2 ^ 971 < 10 ^ 310 := by decide +kernel
    exact_mod_cast natural
  constructor
  · calc (10 : ℚ) ^ (-331 : ℤ) ≤ 1 * 2 ^ (-1074 : ℤ) := by
          rw [one_mul, zpow_neg, zpow_neg]
          exact inv_anti₀ (by positivity) tiny
      _ ≤ (Magnitude.ofBits bits).value :=
        mul_le_mul positive least (by positivity) (by positivity)
  · calc (Magnitude.ofBits bits).value ≤ 2 ^ 53 * 2 ^ (971 : ℤ) :=
          mul_le_mul bounded greatest (by positivity) (by positivity)
      _ < 10 ^ (310 : ℤ) := huge

/-- A decimal number that is a double rounds to that double. -/
theorem toBits_of_value (nonzero : 0 < bits) (finite : bits < infinityBits)
    (exact : decimal.value = (Magnitude.ofBits bits).value) : decimal.toBits = bits := by
  obtain ⟨above, below⟩ := value_ofBits_bounds nonzero finite
  rw [← exact] at above below
  have digits : decimal.digits ≠ 0 := by
    intro zero
    rw [Decimal.value, zero, Nat.cast_zero, zero_mul] at above
    exact absurd above (by norm_num)
  have notLarge : ¬310 < decimal.magnitude := by
    intro large
    have growing : (10 : ℚ) ^ (310 : ℤ) ≤ 10 ^ (decimal.magnitude - 1) :=
      zpow_le_zpow_right₀ (by norm_num) (by omega)
    exact absurd ((growing.trans (Decimal.le_value digits)).trans_lt below) (lt_irrefl _)
  have notSmall : ¬decimal.magnitude < -330 := by
    intro small
    have growing : (10 : ℚ) ^ decimal.magnitude ≤ 10 ^ (-331 : ℤ) :=
      zpow_le_zpow_right₀ (by norm_num) (by omega)
    exact absurd ((decimal.value_lt.trans_le growing).trans_le above) (lt_irrefl _)
  rw [Decimal.toBits, if_neg digits, if_neg notLarge, if_neg notSmall]
  exact nearestBits_of_value decimal.denominator_pos nonzero finite
    (decimal.numerator_div_denominator.trans exact)

/-- A candidate on a grid rounds to the pattern that it is a candidate for. -/
theorem toBits_gridCandidate {below remainder divisor : Nat} {exponent : Int}
    (found : gridCandidate? tie bits below remainder divisor exponent = some decimal) :
    decimal.normalize.toBits = bits := by
  have either : decimal = ⟨below, exponent⟩ ∧
        ((Decimal.normalize ⟨below, exponent⟩).toBits == bits) = true ∨
      decimal = ⟨below + 1, exponent⟩ ∧
        ((Decimal.normalize ⟨below + 1, exponent⟩).toBits == bits) = true := by
    unfold gridCandidate? at found
    simp only at found
    generalize ((Decimal.normalize ⟨below, exponent⟩).toBits == bits) = low at *
    generalize ((Decimal.normalize ⟨below + 1, exponent⟩).toBits == bits) = high at *
    generalize compare (2 * remainder) divisor = order at found
    cases low <;> cases high <;> cases order <;> cases tie <;> simp at found ⊢ <;> grind
  rcases either with ⟨rfl, hit⟩ | ⟨rfl, hit⟩
  · exact beq_iff_eq.1 hit
  · exact beq_iff_eq.1 hit

/-- The shortest decimal number is in normal form. -/
theorem normalize_shortest : (shortest tie bits).normalize = shortest tie bits := by
  unfold shortest
  simp only
  split
  · exact Decimal.normalize_zero 0
  · exact Decimal.normalize_normalize _

/-- The shortest decimal number for a finite pattern rounds to that pattern. -/
theorem toBits_shortest (finite : bits < infinityBits) : (shortest tie bits).toBits = bits := by
  unfold shortest
  simp only
  split
  · rename_i zero
    rcases Nat.eq_zero_or_pos bits with rfl | nonzero
    · rfl
    · exact absurd zero (mantissa_ofBits_pos nonzero).ne'
  · rename_i mantissa
    have nonzero : 0 < bits := by
      refine Nat.pos_of_ne_zero ?_
      rintro rfl
      exact mantissa rfl
    cases found : (List.range' 1 17).findSome? (candidate? tie bits (Magnitude.ofBits bits)) with
    | none =>
      apply toBits_of_value nonzero finite
      rw [Option.getD_none, Decimal.value_normalize, Magnitude.value_toDecimal]
    | some decimal =>
      obtain ⟨count, _, candidate⟩ := List.exists_of_findSome?_eq_some found
      exact toBits_gridCandidate candidate

end Shortest

end KalmanHeader.Number
