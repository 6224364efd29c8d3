import Mathlib
import KalmanHeader.Number.Binary

/-!
# Finite doubles

A finite double is a sign and a pattern below that of infinity. This module moves
between the two: every finite double is `ofSignBits` of its sign and its pattern,
and the operations that reading and writing a double need act on the sign and the
pattern in the expected way. The double's logical model keeps its 64 bits, which
are taken apart here and nowhere else.
-/

namespace KalmanHeader.Number

open Float.Model Float.Model.UnpackedFloat

/-- The pattern with its sign bit. -/
def signedBits (negative : Bool) (bits : Nat) : Nat :=
  if negative then signBit + bits else bits

/-- The sign of a double as the logical model has it. -/
def signOf (negative : Bool) : Sign :=
  if negative then .negative else .positive

/-- The finite double with a sign and a pattern as the logical model takes it
apart. -/
def unpacked (negative : Bool) (bits : Nat) : UnpackedFloat :=
  if positive : 0 < (Magnitude.ofBits bits).mantissa then
    .finite (signOf negative) (Magnitude.ofBits bits).mantissa (Magnitude.ofBits bits).exponent
      positive
  else .zero (signOf negative)

section Fields

variable (pattern : BitVec Format.binary64.numBits)

/-- The low 52 bits are the stored mantissa. -/
theorem toNat_unpackMantissa :
    (@unpackMantissa Format.binary64 pattern).toNat = pattern.toNat % hiddenBit := by
  simp [unpackMantissa, hiddenBit]

/-- The next eleven bits are the stored exponent. -/
theorem toNat_unpackExponent :
    (@unpackExponent Format.binary64 pattern).toNat = pattern.toNat / hiddenBit % 2048 := by
  simp [unpackExponent, hiddenBit, Nat.shiftRight_eq_div_pow]

/-- The highest bit is the sign. -/
theorem toNat_unpackSign :
    (@unpackSign Format.binary64 pattern).toNat = pattern.toNat / signBit % 2 := by
  simp [unpackSign, signBit, Nat.shiftRight_eq_div_pow]

/-- A pattern is the sum of its fields, each at its place. -/
theorem toNat_packComponents (sign : Sign) (exponent : BitVec 11) (mantissa : BitVec 52) :
    (packComponents Format.binary64 sign exponent mantissa).toNat =
      sign.toBitVec.toNat * signBit + (exponent.toNat * hiddenBit + mantissa.toNat) := by
  have low : mantissa.toNat < 2 ^ 52 := mantissa.isLt
  have middle : exponent.toNat < 2 ^ 11 := exponent.isLt
  simp only [packComponents, BitVec.toNat_append, signBit, hiddenBit]
  rw [← Nat.shiftLeft_add_eq_or_of_lt low, ← Nat.shiftLeft_add_eq_or_of_lt middle]
  simp only [Nat.shiftLeft_eq]
  ring

/-- A mantissa with the bit that is not stored. -/
theorem toNat_hidden_append (mantissa : BitVec 52) :
    (1#1 ++ mantissa).toNat = hiddenBit + mantissa.toNat := by
  have low : mantissa.toNat < 2 ^ 52 := mantissa.isLt
  rw [BitVec.toNat_append, ← Nat.shiftLeft_add_eq_or_of_lt low]
  rfl

end Fields

variable {negative : Bool} {bits : Nat}

/-- A pattern with its sign bit fits into 64 bits. -/
theorem signedBits_lt (finite : bits < infinityBits) : signedBits negative bits < 2 ^ 64 := by
  unfold signedBits signBit infinityBits at *
  split <;> omega

/-- The fields of a pattern with its sign bit. -/
theorem fields_signedBits (negative : Bool) (finite : bits < infinityBits) :
    signedBits negative bits % hiddenBit = bits % hiddenBit ∧
      signedBits negative bits / hiddenBit % 2048 = bits / hiddenBit ∧
      signedBits negative bits / signBit % 2 = if negative then 1 else 0 := by
  unfold signedBits signBit hiddenBit infinityBits at *
  cases negative with
  | false =>
    simp only [Bool.false_eq_true, ↓reduceIte]
    refine ⟨trivial, ?_, ?_⟩
    · omega
    · omega
  | true =>
    simp only [↓reduceIte]
    refine ⟨?_, ?_, ?_⟩
    · omega
    · omega
    · omega

/-- The magnitude of a pattern without stored exponent. -/
theorem ofBits_of_lt (small : bits < hiddenBit) : Magnitude.ofBits bits = ⟨bits, -1074⟩ := by
  rw [Magnitude.ofBits, if_pos (Nat.div_eq_of_lt small)]

/-- The magnitude of a pattern with a stored exponent. -/
theorem ofBits_of_le (large : hiddenBit ≤ bits) :
    Magnitude.ofBits bits = ⟨hiddenBit + bits % hiddenBit, (bits / hiddenBit : Nat) - 1075⟩ := by
  rw [Magnitude.ofBits, if_neg (Nat.ne_of_gt (Nat.div_pos large (by decide)))]

/-- The mantissa of a pattern has at most 53 bits. -/
theorem mantissa_ofBits_lt : (Magnitude.ofBits bits).mantissa < 2 * hiddenBit := by
  by_cases small : bits < hiddenBit
  · rw [ofBits_of_lt small]
    exact Nat.lt_of_lt_of_le small (by decide)
  · rw [ofBits_of_le (Nat.le_of_not_lt small), Nat.two_mul]
    exact Nat.add_lt_add_left (Nat.mod_lt _ (by decide)) _

/-- The mantissa of a nonzero pattern is not zero. -/
theorem mantissa_ofBits_pos (positive : 0 < bits) : 0 < (Magnitude.ofBits bits).mantissa := by
  by_cases small : bits < hiddenBit
  · rw [ofBits_of_lt small]
    exact positive
  · rw [ofBits_of_le (Nat.le_of_not_lt small)]
    exact Nat.add_pos_left (by decide) _

/-- The least exponent. -/
theorem le_exponent_ofBits : -1074 ≤ (Magnitude.ofBits bits).exponent := by
  by_cases small : bits < hiddenBit
  · rw [ofBits_of_lt small]
  · have stored : 0 < bits / hiddenBit := Nat.div_pos (Nat.le_of_not_lt small) (by decide)
    rw [ofBits_of_le (Nat.le_of_not_lt small)]
    change -1074 ≤ ((bits / hiddenBit : Nat) : Int) - 1075
    omega

/-- The greatest exponent of a finite pattern. -/
theorem exponent_ofBits_le (finite : bits < infinityBits) :
    (Magnitude.ofBits bits).exponent ≤ 971 := by
  by_cases small : bits < hiddenBit
  · rw [ofBits_of_lt small]
    change (-1074 : Int) ≤ 971
    decide
  · have stored : bits / hiddenBit ≤ 2046 := by
      unfold hiddenBit infinityBits at *
      omega
    rw [ofBits_of_le (Nat.le_of_not_lt small)]
    change ((bits / hiddenBit : Nat) : Int) - 1075 ≤ 971
    omega

/-- Only a pattern with the least exponent has a mantissa without leading bit. -/
theorem hiddenBit_le_mantissa_ofBits (above : -1074 < (Magnitude.ofBits bits).exponent) :
    hiddenBit ≤ (Magnitude.ofBits bits).mantissa := by
  by_cases small : bits < hiddenBit
  · rw [ofBits_of_lt small] at above
    exact absurd above (Int.lt_irrefl _)
  · rw [ofBits_of_le (Nat.le_of_not_lt small)]
    exact Nat.le_add_right _ _

/-- The pattern of a magnitude: the exponent counts above the least one, and the
leading bit of the mantissa adds one to it. -/
theorem pattern_ofBits :
    ((Magnitude.ofBits bits).exponent + 1074).toNat * hiddenBit +
      (Magnitude.ofBits bits).mantissa = bits := by
  by_cases small : bits < hiddenBit
  · rw [ofBits_of_lt small]
    change (-1074 + 1074 : Int).toNat * hiddenBit + bits = bits
    rw [neg_add_cancel, Int.toNat_zero, Nat.zero_mul, Nat.zero_add]
  · have stored : 0 < bits / hiddenBit := Nat.div_pos (Nat.le_of_not_lt small) (by decide)
    have exponent : (((bits / hiddenBit : Nat) : Int) - 1075 + 1074).toNat = bits / hiddenBit - 1 := by
      omega
    rw [ofBits_of_le (Nat.le_of_not_lt small)]
    change (((bits / hiddenBit : Nat) : Int) - 1075 + 1074).toNat * hiddenBit +
      (hiddenBit + bits % hiddenBit) = bits
    rw [exponent, ← Nat.add_assoc, ← Nat.succ_mul, Nat.succ_eq_add_one, Nat.sub_add_cancel stored,
      Nat.mul_comm]
    exact Nat.div_add_mod bits hiddenBit

/-- Without a pattern, the double is zero. -/
theorem unpacked_zero : unpacked negative 0 = .zero (signOf negative) := by
  rw [unpacked, dif_neg]
  decide

/-- A double without stored exponent. -/
theorem unpacked_of_lt (positive : 0 < bits) (small : bits < hiddenBit) :
    unpacked negative bits = .finite (signOf negative) bits (-1074) positive := by
  unfold unpacked
  simp only [ofBits_of_lt small, positive, ↓reduceDIte]

/-- A double with a stored exponent. -/
theorem unpacked_of_le (large : hiddenBit ≤ bits) :
    unpacked negative bits = .finite (signOf negative) (hiddenBit + bits % hiddenBit)
      ((bits / hiddenBit : Nat) - 1075) (Nat.add_pos_left (by decide) _) := by
  have positive : 0 < hiddenBit + bits % hiddenBit := Nat.add_pos_left (by decide) _
  unfold unpacked
  simp only [ofBits_of_le large, positive, ↓reduceDIte]

/-- The sign bit as a sign. -/
theorem signOf_eq (pattern : BitVec Format.binary64.numBits)
    (high : pattern.toNat / signBit % 2 = if negative then 1 else 0) :
    Sign.ofBitVec (@unpackSign Format.binary64 pattern) = signOf negative := by
  rw [← toNat_unpackSign] at high
  unfold Sign.ofBitVec signOf
  cases negative with
  | false =>
    have zero : @unpackSign Format.binary64 pattern = 0#1 := BitVec.eq_of_toNat_eq high
    rw [if_pos zero]
    rfl
  | true =>
    have one : @unpackSign Format.binary64 pattern = 1#1 := BitVec.eq_of_toNat_eq high
    rw [one]
    rfl

/-- The logical model takes a pattern with its sign bit apart into its sign and its
magnitude. -/
theorem unpack_signedBits (finite : bits < infinityBits) :
    UnpackedFloat.unpack Format.binary64 (BitVec.ofNat 64 (signedBits negative bits)) =
      unpacked negative bits := by
  obtain ⟨low, middle, high⟩ := fields_signedBits negative finite
  have whole : (BitVec.ofNat 64 (signedBits negative bits)).toNat = signedBits negative bits :=
    Nat.mod_eq_of_lt (signedBits_lt finite)
  have mantissa := toNat_unpackMantissa (BitVec.ofNat 64 (signedBits negative bits))
  have exponent := toNat_unpackExponent (BitVec.ofNat 64 (signedBits negative bits))
  have sign := signOf_eq (BitVec.ofNat 64 (signedBits negative bits)) (whole ▸ high)
  rw [whole, low] at mantissa
  rw [whole, middle] at exponent
  have noInfinity : bits / hiddenBit ≠ 2047 := by
    unfold hiddenBit infinityBits at *
    omega
  unfold UnpackedFloat.unpack
  simp only [sign]
  split
  · rename_i allOnes
    rw [allOnes] at exponent
    exact absurd exponent.symm noInfinity
  · split
    · rename_i allZeros
      rw [allZeros] at exponent
      have small : bits < hiddenBit := Nat.lt_of_div_eq_zero (by decide) exponent.symm
      rw [Nat.mod_eq_of_lt small] at mantissa
      split
      · rename_i zero
        rw [zero] at mantissa
        rw [← mantissa]
        exact unpacked_zero.symm
      · rename_i nonzero
        have positive : 0 < bits := Nat.pos_of_ne_zero fun zero =>
          nonzero (BitVec.eq_of_toNat_eq (mantissa.trans zero))
        rw [unpacked_of_lt positive small]
        exact (UnpackedFloat.finite.injEq ..).mpr ⟨rfl, mantissa, by rw [allZeros]; rfl⟩
    · rename_i someOne
      have large : hiddenBit ≤ bits := by
        by_contra small
        refine someOne (BitVec.eq_of_toNat_eq ?_)
        rw [exponent, Nat.div_eq_of_lt (Nat.lt_of_not_le small)]
        rfl
      rw [unpacked_of_le large]
      refine (UnpackedFloat.finite.injEq ..).mpr ⟨rfl, ?_, ?_⟩
      · rw [toNat_hidden_append, mantissa]
      · rw [exponent]
        rfl

/-- The sign as a sign bit. -/
theorem toNat_signOf : (signOf negative).toBitVec.toNat * signBit = signedBits negative 0 := by
  cases negative <;> rfl

/-- The sign bit stands above the pattern. -/
theorem signedBits_eq : signedBits negative bits = signedBits negative 0 + bits := by
  cases negative with
  | false => exact (Nat.zero_add bits).symm
  | true => rfl

/-- Packing a magnitude with a sign gives the pattern with its sign bit. -/
theorem pack_unpacked (finite : bits < infinityBits) :
    UnpackedFloat.pack Format.binary64 (unpacked negative bits) =
      BitVec.ofNat 64 (signedBits negative bits) := by
  have whole : (BitVec.ofNat 64 (signedBits negative bits)).toNat = signedBits negative bits :=
    Nat.mod_eq_of_lt (signedBits_lt finite)
  apply BitVec.eq_of_toNat_eq
  rw [whole, signedBits_eq]
  rcases Nat.eq_zero_or_pos bits with rfl | positive
  · rw [unpacked_zero]
    exact (toNat_packComponents ..).trans (by rw [toNat_signOf]; rfl)
  · by_cases small : bits < hiddenBit
    · have short : bits.log2 < 52 := (Nat.log2_lt positive.ne').2 small
      have subnormal : ¬bits.log2 + 1 = Format.binary64.mantissaBits := by
        change ¬bits.log2 + 1 = 53
        omega
      rw [unpacked_of_lt positive small, UnpackedFloat.pack]
      simp only [subnormal, ↓reduceIte]
      rw [if_neg (by decide), toNat_packComponents, toNat_signOf]
      change _ + (0 * hiddenBit + bits % hiddenBit) = _
      rw [Nat.mod_eq_of_lt small, Nat.zero_mul, Nat.zero_add]
    · have large := Nat.le_of_not_lt small
      have stored : (((bits / hiddenBit : Nat) : Int) - 1075 + (Format.binary64.exponentBias : Nat) +
          (Format.binary64.mantissaBitsWithoutImplicit : Nat)).toNat = bits / hiddenBit := by
        change (((bits / hiddenBit : Nat) : Int) - 1075 + 1023 + 52).toNat = bits / hiddenBit
        generalize bits / hiddenBit = exponent
        omega
      have normal : (hiddenBit + bits % hiddenBit).log2 + 1 = Format.binary64.mantissaBits := by
        have below : bits % hiddenBit < hiddenBit := Nat.mod_lt _ (by decide)
        have whole : (hiddenBit + bits % hiddenBit).log2 = 52 :=
          (Nat.log2_eq_iff (by unfold hiddenBit; omega)).2
            ⟨Nat.le_add_right .., by unfold hiddenBit at *; omega⟩
        rw [whole]
        rfl
      have bounded : ¬2 ^ Format.binary64.exponentBits ≤ bits / hiddenBit + 1 := by
        change ¬2048 ≤ bits / hiddenBit + 1
        unfold hiddenBit infinityBits at *
        omega
      rw [unpacked_of_le large, UnpackedFloat.pack]
      simp only [stored, normal, bounded, ↓reduceIte]
      rw [toNat_packComponents, toNat_signOf]
      change _ + (bits / hiddenBit % 2048 * hiddenBit + (hiddenBit + bits % hiddenBit) % 2 ^ 52) = _
      unfold hiddenBit infinityBits at *
      omega

/-- The double of a sign and a pattern, packed from its magnitude. -/
theorem ofSignBits_eq_pack (finite : bits < infinityBits) :
    ofSignBits negative bits = .ofModel (Float.Model.pack (unpacked negative bits)) :=
  congrArg (fun parts => Float.ofModel (Float.Model.pack parts)) (unpack_signedBits finite)

/-- The 64 bits of the double of a sign and a pattern. -/
theorem toNat_toBits_ofSignBits (finite : bits < infinityBits) :
    (ofSignBits negative bits).toBits.toNat = signedBits negative bits := by
  rw [ofSignBits_eq_pack finite]
  change (UnpackedFloat.pack Format.binary64 (unpacked negative bits)).toNat = _
  rw [pack_unpacked finite]
  exact Nat.mod_eq_of_lt (signedBits_lt finite)

/-- The logical model takes the double of a sign and a pattern apart into these. -/
theorem unpack_ofSignBits (finite : bits < infinityBits) :
    (ofSignBits negative bits).toModel.unpack = unpacked negative bits := by
  rw [ofSignBits_eq_pack finite]
  change UnpackedFloat.unpack Format.binary64
    (UnpackedFloat.pack Format.binary64 (unpacked negative bits)) = _
  rw [pack_unpacked finite]
  exact unpack_signedBits finite

/-- The sign of the double of a sign and a pattern. -/
theorem isNegative_ofSignBits (finite : bits < infinityBits) :
    isNegative (ofSignBits negative bits) = negative := by
  rw [isNegative, toNat_toBits_ofSignBits finite]
  unfold signedBits signBit infinityBits at *
  cases negative with
  | false => exact decide_eq_false (by simp only [Bool.false_eq_true, ↓reduceIte]; omega)
  | true => exact decide_eq_true (by simp only [↓reduceIte]; omega)

/-- The pattern of the double of a sign and a pattern. -/
theorem magnitudeBits_ofSignBits (finite : bits < infinityBits) :
    magnitudeBits (ofSignBits negative bits) = bits := by
  rw [magnitudeBits, toNat_toBits_ofSignBits finite]
  unfold signedBits signBit infinityBits at *
  split <;> omega

/-- The opposite of a finite double has the other sign and the same pattern. -/
theorem neg_ofSignBits (finite : bits < infinityBits) :
    (ofSignBits negative bits).neg = ofSignBits (!negative) bits := by
  have opposite : (unpacked negative bits).neg = unpacked (!negative) bits := by
    unfold unpacked
    split <;> cases negative <;> rfl
  change Float.ofModel (Float.Model.pack (ofSignBits negative bits).toModel.unpack.neg) = _
  rw [unpack_ofSignBits finite, opposite, ofSignBits_eq_pack finite]

/-- The double of a sign and a finite pattern is finite. -/
theorem isFinite_ofSignBits (finite : bits < infinityBits) :
    (ofSignBits negative bits).isFinite = true := by
  change (ofSignBits negative bits).toModel.unpack.isFinite = true
  rw [unpack_ofSignBits finite, unpacked]
  split <;> rfl

/-- The double of a sign and a finite pattern is a number. -/
theorem isNaN_ofSignBits (finite : bits < infinityBits) :
    (ofSignBits negative bits).isNaN = false := by
  change (ofSignBits negative bits).toModel.unpack.isNaN = false
  rw [unpack_ofSignBits finite, unpacked]
  split <;> rfl

/-- The double of a sign and a finite pattern is not infinite. -/
theorem isInf_ofSignBits (finite : bits < infinityBits) :
    (ofSignBits negative bits).isInf = false := by
  change (ofSignBits negative bits).toModel.unpack.isInf = false
  rw [unpack_ofSignBits finite, unpacked]
  split <;> rfl

/-- A double is finite if it is neither infinite nor not a number. -/
theorem isFinite_of_not {value : UnpackedFloat} (number : value.isNaN = false)
    (bounded : value.isInf = false) : value.isFinite = true := by
  cases value with
  | infinity => exact nomatch bounded
  | notANumber => exact nomatch number
  | zero | finite => rfl

/-- The pattern of a finite double is below that of infinity. -/
theorem magnitudeBits_lt {value : Float} (finite : value.isFinite = true) :
    magnitudeBits value < infinityBits := by
  by_contra large
  have exponent := toNat_unpackExponent value.toModel.toBits.toBitVec
  have allOnes : @unpackExponent Format.binary64 value.toModel.toBits.toBitVec = -1#11 := by
    apply BitVec.eq_of_toNat_eq
    rw [exponent]
    change value.toBits.toNat / hiddenBit % 2048 = 2047
    have bound : value.toBits.toNat < 2 ^ 64 := value.toBits.toNat_lt
    unfold magnitudeBits signBit hiddenBit infinityBits at *
    omega
  have notFinite : value.isFinite = false := by
    change (UnpackedFloat.unpack Format.binary64 value.toModel.toBits.toBitVec).isFinite = false
    unfold UnpackedFloat.unpack
    simp only [allOnes, ↓reduceIte]
    split <;> rfl
  rw [finite] at notFinite
  contradiction

/-- A finite double is the double of its sign and its pattern. -/
theorem eq_ofSignBits {value : Float} (finite : value.isFinite = true) :
    value = ofSignBits (isNegative value) (magnitudeBits value) := by
  have whole : value.toBits.toNat = signedBits (isNegative value) (magnitudeBits value) := by
    have bound : value.toBits.toNat < 2 ^ 64 := value.toBits.toNat_lt
    unfold signedBits isNegative magnitudeBits signBit
    simp only [decide_eq_true_eq]
    split <;> omega
  have sameBits : value.toBits = (ofSignBits (isNegative value) (magnitudeBits value)).toBits := by
    apply UInt64.toNat_inj.1
    rw [toNat_toBits_ofSignBits (magnitudeBits_lt finite), whole]
  generalize ofSignBits (isNegative value) (magnitudeBits value) = other at sameBits
  obtain ⟨⟨bits, valid⟩⟩ := value
  obtain ⟨⟨bits', valid'⟩⟩ := other
  obtain rfl : bits = bits' := sameBits
  rfl

/-- The comparison of two doubles compares what the logical model takes them apart
into. -/
theorem beq_eq (left right : Float) :
    left.beq right = left.toModel.unpack.beq right.toModel.unpack :=
  rfl

/-- The literal zero is the double of the pattern zero. -/
theorem zero_eq_ofSignBits : (0.0 : Float) = ofSignBits false 0 := by
  decide

/-- A double with a pattern is its magnitude with a sign. -/
theorem unpacked_of_pos (positive : 0 < bits) :
    unpacked negative bits = .finite (signOf negative) (Magnitude.ofBits bits).mantissa
      (Magnitude.ofBits bits).exponent (mantissa_ofBits_pos positive) :=
  dif_pos (mantissa_ofBits_pos positive)

/-- A pattern is determined by its magnitude. -/
theorem magnitudes_eq_iff {bits' : Nat} :
    (Magnitude.ofBits bits).exponent = (Magnitude.ofBits bits').exponent ∧
      (Magnitude.ofBits bits).mantissa = (Magnitude.ofBits bits').mantissa ↔ bits = bits' := by
  constructor
  · rintro ⟨exponent, mantissa⟩
    have pattern := @pattern_ofBits bits
    rw [exponent, mantissa, pattern_ofBits] at pattern
    exact pattern.symm
  · rintro rfl
    exact ⟨rfl, rfl⟩

/-- Finite doubles compare equal when they are the same or both zero. -/
theorem beq_ofSignBits {negative' : Bool} {bits' : Nat} (finite : bits < infinityBits)
    (finite' : bits' < infinityBits) :
    (ofSignBits negative bits).beq (ofSignBits negative' bits') = true ↔
      negative = negative' ∧ bits = bits' ∨ bits = 0 ∧ bits' = 0 := by
  rw [beq_eq, unpack_ofSignBits finite, unpack_ofSignBits finite']
  rcases Nat.eq_zero_or_pos bits with rfl | positive
  · rw [unpacked_zero]
    rcases Nat.eq_zero_or_pos bits' with rfl | positive'
    · rw [unpacked_zero]
      simp [UnpackedFloat.beq, UnpackedFloat.compare]
    · rw [unpacked_of_pos positive']
      cases negative' <;> simp [UnpackedFloat.beq, UnpackedFloat.compare, signOf, positive'.ne,
        positive'.ne']
  · rw [unpacked_of_pos positive]
    rcases Nat.eq_zero_or_pos bits' with rfl | positive'
    · rw [unpacked_zero]
      cases negative <;> simp [UnpackedFloat.beq, UnpackedFloat.compare, signOf, positive.ne']
    · rw [unpacked_of_pos positive']
      cases negative <;> cases negative' <;>
        simp [UnpackedFloat.beq, UnpackedFloat.compare, signOf, positive.ne', magnitudes_eq_iff]

/-- A finite double compares equal to itself. -/
theorem beq_self {value : Float} (finite : value.isFinite = true) : value.beq value = true := by
  have small := magnitudeBits_lt finite
  rw [eq_ofSignBits finite, beq_ofSignBits small small]
  exact .inl ⟨rfl, rfl⟩

/-- A finite double compares equal to zero exactly when its pattern is zero. -/
theorem beq_zero_ofSignBits (finite : bits < infinityBits) :
    (ofSignBits negative bits == 0.0) = decide (bits = 0) := by
  rw [Bool.eq_iff_iff, decide_eq_true_iff]
  change (ofSignBits negative bits).beq 0.0 = true ↔ _
  rw [zero_eq_ofSignBits, beq_ofSignBits finite (by decide)]
  constructor
  · rintro (⟨_, zero⟩ | ⟨zero, _⟩) <;> exact zero
  · intro zero
    exact .inr ⟨zero, rfl⟩

/-- A finite double is below zero exactly when its sign is negative and it is not
zero. -/
theorem lt_zero_ofSignBits (finite : bits < infinityBits) :
    decide (ofSignBits negative bits < 0.0) = (negative && decide (bits ≠ 0)) := by
  have compared : decide (ofSignBits negative bits < 0.0) =
      (unpacked negative bits).lt (unpacked false 0) := by
    rw [zero_eq_ofSignBits, ← unpack_ofSignBits finite, ← unpack_ofSignBits (by decide)]
    exact Bool.eq_iff_iff.2 (decide_eq_true_iff.trans decide_eq_true_iff)
  rw [compared, unpacked_zero]
  rcases Nat.eq_zero_or_pos bits with rfl | positive
  · rw [unpacked_zero]
    cases negative <;> rfl
  · rw [unpacked_of_pos positive, decide_eq_true positive.ne']
    cases negative <;> rfl

/-- The opposite of a finite double is finite. -/
theorem isFinite_neg {value : Float} (finite : value.isFinite = true) :
    value.neg.isFinite = true := by
  rw [eq_ofSignBits finite, neg_ofSignBits (magnitudeBits_lt finite)]
  exact isFinite_ofSignBits (magnitudeBits_lt finite)

/-- The opposites of finite doubles that compare equal compare equal. -/
theorem beq_neg {left right : Float} (finite : left.isFinite = true)
    (finite' : right.isFinite = true) (equal : left.beq right = true) :
    left.neg.beq right.neg = true := by
  have small := magnitudeBits_lt finite
  have small' := magnitudeBits_lt finite'
  rw [eq_ofSignBits finite, eq_ofSignBits finite'] at equal ⊢
  rw [beq_ofSignBits small small'] at equal
  rw [neg_ofSignBits small, neg_ofSignBits small', beq_ofSignBits small small']
  rcases equal with ⟨sign, pattern⟩ | zeros
  · exact .inl ⟨congrArg not sign, pattern⟩
  · exact .inr zeros

end KalmanHeader.Number
