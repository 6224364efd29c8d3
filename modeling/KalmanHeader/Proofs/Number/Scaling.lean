import KalmanHeader.Number.Scaling
import KalmanHeader.Proofs.Number.Double
import KalmanHeader.Proofs.Number.Rounding

/-!
# Scaling stays finite

The product of finite doubles is finite unless it is infinite, and the quotient of a finite
double by one that is at least two is finite: rounding may add one to the exponent, and the
division has taken more than that away. So whatever scaling by a power of ten gives is a
finite double.
-/

namespace KalmanHeader.Number

open Float.Model Float.Model.UnpackedFloat

section Packing

variable {pattern : BitVec Format.binary64.numBits} {value : UnpackedFloat}

/-- A pattern without the greatest exponent is that of a finite double. -/
theorem isFinite_unpack (exponent : @unpackExponent Format.binary64 pattern ≠ -1#11) :
    (UnpackedFloat.unpack Format.binary64 pattern).isFinite = true := by
  unfold UnpackedFloat.unpack
  simp only [exponent, ↓reduceIte]
  split
  · split <;> rfl
  · rfl

/-- The pattern of infinity is that of infinity. -/
theorem isNaN_unpack_packedInfinity (sign : Sign) :
    (UnpackedFloat.unpack Format.binary64 (packedInfinity Format.binary64 sign)).isNaN =
      false := by
  unfold UnpackedFloat.unpack packedInfinity
  simp only [unpackExponent_packComponents, unpackMantissa_packComponents]
  rfl

/-- The pattern of zero is finite. -/
theorem isFinite_unpack_packedZero (sign : Sign) :
    (UnpackedFloat.unpack Format.binary64 (packedZero Format.binary64 sign)).isFinite = true := by
  cases sign <;> rfl

/-- A magnitude is packed as a finite double or as infinity, and as a finite double if its
exponent is in range. -/
theorem pack_cases (sign : Sign) {mantissa : Nat} (exponent : Int) (positive : 0 < mantissa) :
    (UnpackedFloat.unpack Format.binary64
      (UnpackedFloat.pack Format.binary64 (.finite sign mantissa exponent positive))).isFinite =
        true ∨
      971 < exponent ∧ UnpackedFloat.pack Format.binary64 (.finite sign mantissa exponent positive) =
        packedInfinity Format.binary64 sign := by
  rw [UnpackedFloat.pack]
  change (UnpackedFloat.unpack Format.binary64
    (if 2048 ≤ (exponent + (1023 : Nat) + (52 : Nat)).toNat + 1 then _ else _)).isFinite = true ∨ _ ∧
      (if 2048 ≤ (exponent + (1023 : Nat) + (52 : Nat)).toNat + 1 then _ else _) = _
  split
  · rename_i large
    exact .inr ⟨by omega, rfl⟩
  · rename_i range
    refine .inl (isFinite_unpack ?_)
    split
    · rw [unpackExponent_packComponents]
      intro allOnes
      have stored := congrArg BitVec.toNat allOnes
      rw [BitVec.toNat_ofNat] at stored
      change (exponent + (1023 : Nat) + (52 : Nat)).toNat % 2048 = 2047 at stored
      omega
    · rw [unpackExponent_packComponents]
      decide

/-- A number is packed as a number. -/
theorem isNaN_pack (number : value.isNaN = false) :
    (UnpackedFloat.unpack Format.binary64
      (UnpackedFloat.pack Format.binary64 value)).isNaN = false := by
  cases value with
  | notANumber => exact nomatch number
  | infinity sign => exact isNaN_unpack_packedInfinity sign
  | zero sign => cases sign <;> rfl
  | finite sign mantissa exponent positive =>
    rcases pack_cases sign exponent positive with finite | ⟨_, infinite⟩
    · generalize UnpackedFloat.unpack Format.binary64 _ = found at finite ⊢
      cases found <;> trivial
    · rw [infinite]
      exact isNaN_unpack_packedInfinity sign

end Packing

section Rounding

variable {mantissa : Nat} {exponent : Int} {accuracy : Accuracy}

/-- Shifting drops the lowest bits. -/
theorem mantissa_shiftRight (extended : ExtendedMantissa) (count : Nat) :
    (extended >>> count).mantissa = extended.mantissa / 2 ^ count := by
  change (count.repeat ExtendedMantissa.shiftRightOne extended).mantissa = _
  induction count with
  | zero => exact (Nat.div_one _).symm
  | succ count ih =>
    rw [Nat.repeat, ExtendedMantissa.shiftRightOne, ih, Nat.div_div_eq_div_mul, Nat.pow_succ]

/-- Rounding adds at most one. -/
theorem roundedMantissa_le (extended : ExtendedMantissa) :
    extended.roundedMantissa ≤ extended.mantissa + 1 := by
  unfold ExtendedMantissa.roundedMantissa Accuracy.roundToNearestEven
  split <;> omega

/-- A mantissa has no residual bits before it is shifted. -/
theorem mantissa_ofMantissaAndAccuracy :
    (ExtendedMantissa.ofMantissaAndAccuracy mantissa accuracy).mantissa = mantissa := by
  unfold ExtendedMantissa.ofMantissaAndAccuracy
  split <;> rfl

/-- The exponent that a mantissa with an exponent is shifted to. -/
theorem targetExponent_eq :
    Format.binary64.targetExponent (totalExponent mantissa exponent) =
      max (mantissa.log2 + 1 + exponent - 53) (-1074) :=
  rfl

/-- A shifted mantissa has at most 53 bits. -/
theorem mantissa_shiftToTargetExponent_lt :
    (shiftToTargetExponent Format.binary64 mantissa exponent accuracy).1.mantissa < 2 ^ 53 := by
  rw [shiftToTargetExponent, targetExponent_eq]
  change ((ExtendedMantissa.ofMantissaAndAccuracy mantissa accuracy) >>>
    (max (mantissa.log2 + 1 + exponent - 53) (-1074) - exponent).toNat).mantissa < _
  rw [mantissa_shiftRight, mantissa_ofMantissaAndAccuracy]
  generalize count : (max (mantissa.log2 + 1 + exponent - 53) (-1074) - exponent).toNat = shift
  refine Nat.div_lt_of_lt_mul (Nat.lt_of_lt_of_le Nat.lt_log2_self ?_)
  rw [← Nat.pow_add]
  exact Nat.pow_le_pow_right (by decide) (by omega)

/-- Shifting raises the exponent to its target, or leaves it. -/
theorem exponent_shiftToTargetExponent :
    (shiftToTargetExponent Format.binary64 mantissa exponent accuracy).2 =
      max exponent (max (mantissa.log2 + 1 + exponent - 53) (-1074)) := by
  rw [shiftToTargetExponent, targetExponent_eq]
  change exponent + ((max (mantissa.log2 + 1 + exponent - 53) (-1074) - exponent).toNat : Int) = _
  omega

/-- Rounding gives a number. -/
theorem isNaN_roundWithAccuracy {sign : Sign} :
    (roundWithAccuracy Format.binary64 sign mantissa exponent accuracy).isNaN = false := by
  unfold roundWithAccuracy
  simp only
  split <;> rfl

/-- Rounding adds at most one to the exponent, so a number well in range stays finite. -/
theorem isFinite_roundWithAccuracy {sign : Sign} (small : exponent ≤ 970)
    (range : mantissa.log2 + 1 + exponent ≤ 1023) :
    (UnpackedFloat.unpack Format.binary64 (UnpackedFloat.pack Format.binary64
      (roundWithAccuracy Format.binary64 sign mantissa exponent accuracy))).isFinite = true := by
  have first := @exponent_shiftToTargetExponent mantissa exponent accuracy
  have short := @mantissa_shiftToTargetExponent_lt mantissa exponent accuracy
  unfold roundWithAccuracy
  generalize shiftToTargetExponent Format.binary64 mantissa exponent accuracy = shifted at first short
  obtain ⟨extended, raised⟩ := shifted
  simp only at first short ⊢
  have second := @exponent_shiftToTargetExponent extended.roundedMantissa raised .exact
  have bits : extended.roundedMantissa.log2 ≤ 53 := by
    have rounded := roundedMantissa_le extended
    rcases Nat.eq_zero_or_pos extended.roundedMantissa with zero | positive
    · rw [zero, Nat.log2_zero]
      exact Nat.zero_le _
    · exact Nat.lt_succ_iff.1 ((Nat.log2_lt positive.ne').2 (by omega))
  split
  · cases sign <;> rfl
  · rcases pack_cases sign _ (Nat.pos_of_ne_zero ‹_›) with finite | ⟨large, _⟩
    · exact finite
    · omega

/-- What is left of the exponent after a division by a number of at least two. -/
theorem totalExponent_div {dividend divisor : Nat} {exponent' : Int} (positive : 0 < divisor)
    (target : Int) (below : target ≤ exponent - exponent') :
    ((dividend <<< (exponent - exponent' - target).toNat) / divisor = 0) ∨
      (((dividend <<< (exponent - exponent' - target).toNat) / divisor).log2 : Int) + 1 + target ≤
        (dividend.log2 + 1 + exponent) - (divisor.log2 + exponent') := by
  generalize shift : (exponent - exponent' - target).toNat = count
  rw [Nat.shiftLeft_eq]
  generalize quotient : dividend * 2 ^ count / divisor = result
  rcases Nat.eq_zero_or_pos result with zero | nonzero
  · exact .inl zero
  · refine .inr ?_
    have least : 2 ^ divisor.log2 ≤ divisor := Nat.log2_self_le positive.ne'
    have greatest : dividend < 2 ^ (dividend.log2 + 1) := Nat.lt_log2_self
    have leading : 2 ^ result.log2 ≤ result := Nat.log2_self_le nonzero.ne'
    have product : result * divisor ≤ dividend * 2 ^ count := quotient ▸ Nat.div_mul_le_self _ _
    have powers : 2 ^ (result.log2 + divisor.log2) < 2 ^ (dividend.log2 + 1 + count) := by
      rw [Nat.pow_add, Nat.pow_add]
      calc 2 ^ result.log2 * 2 ^ divisor.log2 ≤ result * divisor := Nat.mul_le_mul leading least
        _ ≤ dividend * 2 ^ count := product
        _ < 2 ^ (dividend.log2 + 1) * 2 ^ count :=
          Nat.mul_lt_mul_of_pos_right greatest (Nat.two_pow_pos count)
    have exponents := (Nat.pow_lt_pow_iff_right (by decide)).1 powers
    omega

end Rounding

section Operations

variable {left right : Float}

/-- The product of finite doubles is finite, unless it is infinite. -/
theorem isFinite_mul (finite : left.isFinite = true) (finite' : right.isFinite = true)
    (bounded : (left * right).isInf = false) : (left * right).isFinite = true := by
  refine isFinite_of_not (isNaN_pack ?_) bounded
  change left.toModel.unpack.isFinite = true at finite
  change right.toModel.unpack.isFinite = true at finite'
  generalize left.toModel.unpack = first at finite ⊢
  generalize right.toModel.unpack = second at finite' ⊢
  cases first with
  | infinity | notANumber => exact nomatch finite
  | zero =>
    cases second with
    | infinity | notANumber => exact nomatch finite'
    | zero | finite => rfl
  | finite =>
    cases second with
    | infinity | notANumber => exact nomatch finite'
    | zero => rfl
    | finite => exact isNaN_roundWithAccuracy

/-- A magnitude divided by one that is at least two is packed as a finite double. -/
theorem isFinite_div_magnitude {sign sign' : Sign} {mantissa mantissa' : Nat}
    {exponent exponent' : Int} (positive : 0 < mantissa) (positive' : 0 < mantissa')
    (short : mantissa.log2 < 53) (range : exponent ≤ 971) (full : 52 ≤ mantissa'.log2)
    (large : -51 ≤ exponent') :
    (UnpackedFloat.unpack Format.binary64 (UnpackedFloat.pack Format.binary64
      (UnpackedFloat.div Format.binary64 (.finite sign mantissa exponent positive)
        (.finite sign' mantissa' exponent' positive')))).isFinite = true := by
  let target := min (exponent - exponent') (Format.binary64.targetExponent
    (totalExponent mantissa exponent - totalExponent mantissa' exponent'))
  have target_eq : target = min (exponent - exponent')
      (max ((mantissa.log2 + 1 + exponent) - (mantissa'.log2 + 1 + exponent') - 53) (-1074)) :=
    rfl
  have small : target ≤ 970 := by omega
  have total : (((mantissa <<< (exponent - exponent' - target).toNat) / mantissa').log2 : Int) +
      1 + target ≤ 1023 := by
    rcases totalExponent_div positive' target (Int.min_le_left ..) with zero | bound
    · rw [zero, Nat.log2_zero]
      omega
    · omega
  exact isFinite_roundWithAccuracy small total

/-- The pattern of the double two. -/
def twoBits : Nat := 0x4000000000000000

/-- A finite double divided by one that is at least two is finite. -/
theorem isFinite_div {negative negative' : Bool} {bits bits' : Nat} (finite : bits < infinityBits)
    (large : twoBits ≤ bits') (finite' : bits' < infinityBits) :
    (ofSignBits negative bits / ofSignBits negative' bits').isFinite = true := by
  change (UnpackedFloat.unpack Format.binary64 (UnpackedFloat.pack Format.binary64
    (UnpackedFloat.div Format.binary64 (ofSignBits negative bits).toModel.unpack
      (ofSignBits negative' bits').toModel.unpack))).isFinite = true
  have positive' : 0 < bits' := Nat.lt_of_lt_of_le (by decide) large
  rw [unpack_ofSignBits finite, unpack_ofSignBits finite', unpacked_of_pos positive']
  have stored : hiddenBit ≤ bits' := Nat.le_trans (by decide) large
  have exponent' : -51 ≤ (Magnitude.ofBits bits').exponent := by
    rw [ofBits_of_le stored]
    unfold twoBits hiddenBit at *
    change -51 ≤ ((bits' / 0x10000000000000 : Nat) : Int) - 1075
    omega
  have mantissa' : 52 ≤ (Magnitude.ofBits bits').mantissa.log2 :=
    (Nat.le_log2 (mantissa_ofBits_pos positive').ne').2
      (hiddenBit_le_mantissa_ofBits (Int.lt_of_lt_of_le (by decide) exponent'))
  rcases Nat.eq_zero_or_pos bits with rfl | positive
  · rw [unpacked_zero, UnpackedFloat.div]
    exact isFinite_unpack_packedZero _
  · have mantissa : (Magnitude.ofBits bits).mantissa.log2 < 53 :=
      (Nat.log2_lt (mantissa_ofBits_pos positive).ne').2 mantissa_ofBits_lt
    rw [unpacked_of_pos positive]
    exact isFinite_div_magnitude _ _ mantissa (exponent_ofBits_le finite) mantissa' exponent'

end Operations

section Powers

/-- The powers of ten that are doubles, as patterns: all are finite, and all but the first are
at least two. -/
theorem toBits_power : ∀ exponent ≤ greatestPower,
    (0 < exponent → twoBits ≤ Decimal.toBits ⟨1, exponent⟩) ∧
      Decimal.toBits ⟨1, exponent⟩ < infinityBits := by
  decide +kernel

/-- A power of ten as a pattern. -/
theorem powerOfTen_eq (exponent : Nat) :
    powerOfTen exponent = ofSignBits false (Decimal.toBits ⟨1, exponent⟩) := by
  rw [powerOfTen, Decimal.toFloat, Decimal.normalize]
  rfl

/-- The powers of ten up to the greatest are finite. -/
theorem isFinite_powerOfTen {exponent : Nat} (bounded : exponent ≤ greatestPower) :
    (powerOfTen exponent).isFinite = true := by
  rw [powerOfTen_eq]
  exact isFinite_ofSignBits (toBits_power exponent bounded).2

/-- A finite double divided by a power of ten is finite. -/
theorem isFinite_div_powerOfTen {value : Float} {exponent : Nat} (finite : value.isFinite = true)
    (positive : 0 < exponent) (bounded : exponent ≤ greatestPower) :
    (value / powerOfTen exponent).isFinite = true := by
  rw [eq_ofSignBits finite, powerOfTen_eq]
  exact isFinite_div (magnitudeBits_lt finite) ((toBits_power exponent bounded).1 positive)
    (toBits_power exponent bounded).2

/-- Scaling a finite double gives a finite double, if it gives one. -/
theorem isFinite_scale? {value result : Float} {exponent : Int} (finite : value.isFinite = true)
    (scaled : scale? value exponent = some result) : result.isFinite = true := by
  fun_induction scale? value exponent with
  | case1 value exponent _ _ =>
    cases scaled
    exact finite
  | case2 => exact nomatch scaled
  | case3 => exact nomatch scaled
  | case4 value exponent small positive product bounded =>
    rw [← Option.some.inj scaled]
    exact isFinite_mul finite (isFinite_powerOfTen (by omega)) (Bool.eq_false_iff.2 bounded)
  | case5 value exponent _ _ _ _ =>
    cases scaled
    exact finite
  | case6 value exponent _ _ _ _ ih =>
    exact ih (isFinite_div_powerOfTen finite (by decide) (Nat.le_refl _)) scaled
  | case7 value exponent _ negative large =>
    cases scaled
    exact isFinite_div_powerOfTen finite (by omega) (by omega)

end Powers

section Digits

variable {numerator denominator : Nat}

/-- Rounding adds at most one to a quotient. -/
theorem roundedQuotient_le : roundedQuotient numerator denominator ≤ numerator / denominator + 1 := by
  unfold roundedQuotient
  split
  · exact Nat.le_succ _
  · exact Nat.le_refl _
  · simp only
    split
    · exact Nat.le_succ _
    · exact Nat.le_refl _

/-- The quotient for an exponent that is not below the estimate has at most 54 bits. -/
theorem quotient_lt (positive : 0 < denominator) {exponent : Int}
    (estimate : (numerator.log2 : Int) - denominator.log2 - 53 ≤ exponent) :
    numerator * 2 ^ (-exponent).toNat / (denominator * 2 ^ exponent.toNat) < 2 ^ 54 := by
  have greatest : numerator < 2 ^ (numerator.log2 + 1) := Nat.lt_log2_self
  have least : 2 ^ denominator.log2 ≤ denominator := Nat.log2_self_le positive.ne'
  refine Nat.div_lt_of_lt_mul ?_
  calc numerator * 2 ^ (-exponent).toNat
      < 2 ^ (numerator.log2 + 1) * 2 ^ (-exponent).toNat :=
        Nat.mul_lt_mul_of_pos_right greatest (Nat.two_pow_pos _)
    _ = 2 ^ (numerator.log2 + 1 + (-exponent).toNat) := (Nat.pow_add ..).symm
    _ ≤ 2 ^ (denominator.log2 + exponent.toNat + 54) :=
        Nat.pow_le_pow_right (by decide) (by omega)
    _ = 2 ^ denominator.log2 * 2 ^ exponent.toNat * 2 ^ 54 := by rw [Nat.pow_add, Nat.pow_add]
    _ ≤ denominator * 2 ^ exponent.toNat * 2 ^ 54 :=
        Nat.mul_le_mul_right _ (Nat.mul_le_mul_right _ least)

/-- A fraction well below the greatest double is nearest to a finite one. -/
theorem nearestBits_lt (positive : 0 < denominator)
    (small : (numerator.log2 : Int) ≤ denominator.log2 + 900) :
    nearestBits numerator denominator < infinityBits := by
  unfold nearestBits
  split
  · decide
  · simp only [Nat.pow_eq]
    generalize estimate : max (-1074) ((numerator.log2 : Int) - denominator.log2 - 53) = first
    generalize chosen : (if numerator * 2 ^ (-first).toNat / (denominator * 2 ^ first.toNat) <
      2 * hiddenBit then first else first + 1) = exponent
    have range : first ≤ exponent ∧ exponent ≤ first + 1 := by
      split at chosen <;> omega
    have above : (numerator.log2 : Int) - denominator.log2 - 53 ≤ exponent := by omega
    have short := quotient_lt positive above
    have rounded := @roundedQuotient_le (numerator * 2 ^ (-exponent).toNat)
      (denominator * 2 ^ exponent.toNat)
    refine Nat.lt_of_le_of_lt (Nat.min_le_right _ _) ?_
    have weight : (exponent + 1074).toNat * hiddenBit ≤ 1923 * hiddenBit :=
      Nat.mul_le_mul_right _ (by omega)
    unfold infinityBits hiddenBit at *
    omega

/-- The double nearest to digits that 64 bits hold is finite. -/
theorem isFinite_toFloat {negative : Bool} {digits : Nat} (small : digits < 2 ^ 64) :
    (Decimal.toFloat negative ⟨digits, 0⟩).isFinite = true := by
  refine isFinite_ofSignBits ?_
  have value : (Decimal.normalize ⟨digits, 0⟩).value = digits := by
    rw [Decimal.value_normalize, Decimal.value, zpow_zero, mul_one]
  generalize Decimal.normalize ⟨digits, 0⟩ = decimal at value
  unfold Decimal.toBits
  split
  · decide
  · rename_i nonzero
    have positive := decimal.denominator_pos
    have fraction : decimal.numerator = digits * decimal.denominator := by
      have exact := decimal.numerator_div_denominator.trans value
      rw [div_eq_iff (by exact_mod_cast positive.ne')] at exact
      exact_mod_cast exact
    have present : 0 < digits := by
      refine Nat.pos_of_ne_zero ?_
      rintro rfl
      have zero := (Decimal.le_value nonzero).trans_eq value
      exact absurd zero (not_le.2 (by positivity))
    have short : digits.log2 < 64 := (Nat.log2_lt present.ne').2 small
    split
    · rename_i large
      have bound : (10 : ℚ) ^ (310 : ℤ) ≤ digits :=
        (zpow_le_zpow_right₀ (by norm_num) (by omega)).trans
          ((Decimal.le_value nonzero).trans_eq value)
      have natural : 10 ^ 310 ≤ digits := by exact_mod_cast bound
      exact absurd (Nat.lt_of_le_of_lt natural small) (by decide +kernel)
    · split
      · decide
      · refine nearestBits_lt positive ?_
        rw [fraction]
        have bound := (log2_mul present positive).2
        omega

/-- Digits that 64 bits hold are scaled to a finite double, if they are scaled to one. -/
theorem isFinite_scaled? {decimal : Decimal} {result : Float} (small : decimal.digits < 2 ^ 64)
    (scaled : decimal.scaled? = some result) : result.isFinite = true :=
  isFinite_scale? (isFinite_toFloat small) scaled

end Digits

end KalmanHeader.Number
