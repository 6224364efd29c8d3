import KalmanHeader.Number.Layout
import KalmanHeader.Proofs.Number.Rounding
import KalmanHeader.Proofs.Text.CharacterClass

/-!
# Reading the text of a double back

The digits of a double are laid out in one of four ways, and each of them reads
back as a decimal number with the same normal form. Since the digits round to
the double they were chosen for, so does what is read.
-/

namespace KalmanHeader.Number

/-- What a text format needs for its numerals to be readable: only the usual marks
around the digits. -/
structure Style.Readable (style : Style) : Prop where
  wholeSuffix : style.wholeSuffix = [] ∨ style.wholeSuffix = ['.', '0']
  plusSign : style.plusSign = [] ∨ style.plusSign = ['+']

section Reading

variable {whole fraction suffix : List Char}

/-- A numeral without point. -/
theorem readDecimal?_whole (digits : ∀ character ∈ whole, character.isDigit) (present : whole ≠ [])
    (stop : ∀ character ∈ suffix.head?, ¬character.isDigit ∧ character ≠ '.') :
    readDecimal? (whole ++ suffix) =
      (readExponent? suffix).map fun exponent => ⟨Nat.ofDigitChars 10 whole 0, exponent⟩ := by
  unfold readDecimal?
  simp only [Text.takeWhile_run digits fun character first => (stop character first).1,
    Text.dropWhile_run digits fun character first => (stop character first).1]
  cases suffix with
  | nil => simp [present]
  | cons first rest =>
    have noPoint : first ≠ '.' := (stop first rfl).2
    simp [present, noPoint]

/-- A numeral with a point. -/
theorem readDecimal?_point (digits : ∀ character ∈ whole, character.isDigit) (present : whole ≠ [])
    (digits' : ∀ character ∈ fraction, character.isDigit)
    (stop : ∀ character ∈ suffix.head?, ¬character.isDigit) :
    readDecimal? (whole ++ '.' :: (fraction ++ suffix)) =
      (readExponent? suffix).map fun exponent =>
        ⟨Nat.ofDigitChars 10 (whole ++ fraction) 0, exponent - fraction.length⟩ := by
  have point : ∀ character ∈ ('.' :: (fraction ++ suffix)).head?, ¬character.isDigit := by
    rintro character ⟨⟩
    decide
  unfold readDecimal?
  simp only [Text.takeWhile_run digits point, Text.dropWhile_run digits point,
    Text.takeWhile_run digits' stop, Text.dropWhile_run digits' stop]
  simp [present]

/-- A numeral with a point and nothing after the fraction. -/
theorem readDecimal?_fraction (digits : ∀ character ∈ whole, character.isDigit)
    (present : whole ≠ []) (digits' : ∀ character ∈ fraction, character.isDigit) :
    readDecimal? (whole ++ '.' :: fraction) =
      some ⟨Nat.ofDigitChars 10 (whole ++ fraction) 0, -(fraction.length : Int)⟩ := by
  have noSuffix : ∀ character ∈ ([] : List Char).head?, ¬character.isDigit := by
    rintro character ⟨⟩
  have read := readDecimal?_point digits present digits' noSuffix
  rw [List.append_nil, readExponent?, Option.map_some, Int.zero_sub] at read
  exact read

/-- Digits are neither signs nor points. -/
theorem ne_sign_of_isDigit {character : Char} (digit : character.isDigit) :
    character ≠ '-' ∧ character ≠ '+' ∧ character ≠ '.' := by
  refine ⟨?_, ?_, ?_⟩ <;> rintro rfl <;> exact absurd digit (by decide)

/-- The digits of a number are digits. -/
theorem isDigit_of_mem_toDigits {number : Nat} :
    ∀ character ∈ Nat.toDigits 10 number, character.isDigit := fun _ member =>
  Nat.isDigit_of_mem_toDigits (by decide) (by decide) member

/-- The digits of a number read as that number. -/
theorem readDigits?_toDigits (number : Nat) :
    readExponent?.readDigits? (Nat.toDigits 10 number) = some number := by
  have digits : (Nat.toDigits 10 number).all Char.isDigit :=
    List.all_eq_true.2 isDigit_of_mem_toDigits
  rw [readExponent?.readDigits?, if_pos ⟨Nat.toDigits_ne_nil, digits⟩,
    Nat.ofDigitChars_ten_toDigits]

/-- The text of a power of ten reads as that power. -/
theorem readExponent?_text {plusSign : List Char} (plus : plusSign = [] ∨ plusSign = ['+'])
    (exponent : Int) :
    readExponent?
        ('e' :: ((if exponent < 0 then ['-'] else plusSign) ++ Nat.toDigits 10 exponent.natAbs)) =
      some exponent := by
  by_cases negative : exponent < 0
  · have magnitude : -(exponent.natAbs : Int) = exponent := by omega
    rw [if_pos negative]
    simp only [List.singleton_append, readExponent?, true_or, ↓reduceIte, readDigits?_toDigits]
    exact congrArg some magnitude
  · have magnitude : Int.ofNat exponent.natAbs = exponent :=
      Int.natAbs_of_nonneg (Int.not_lt.1 negative)
    rw [if_neg negative]
    rcases plus with rfl | rfl
    · obtain ⟨first, rest, digits⟩ :=
        List.exists_cons_of_ne_nil (@Nat.toDigits_ne_nil exponent.natAbs 10)
      have digit : first.isDigit := isDigit_of_mem_toDigits first (digits ▸ List.mem_cons_self)
      obtain ⟨noMinus, noPlus, _⟩ := ne_sign_of_isDigit digit
      have number := readDigits?_toDigits exponent.natAbs
      rw [digits] at number
      rw [List.nil_append, digits]
      simp only [readExponent?, true_or, ↓reduceIte]
      split
      · rename_i minus
        exact absurd (List.cons.inj minus).1 noMinus
      · rename_i plus
        exact absurd (List.cons.inj plus).1 noPlus
      · rw [number, Option.map_some, magnitude]
    · simp only [List.singleton_append, readExponent?, true_or, ↓reduceIte, readDigits?_toDigits,
        Option.map_some, magnitude]

end Reading

section Text

variable {decimal : Decimal} {suffix : List Char}

/-- Zeros are digits. -/
theorem isDigit_of_mem_zeros {count : Nat} :
    ∀ character ∈ List.replicate count '0', character.isDigit := by
  intro character member
  rw [List.eq_of_mem_replicate member]
  decide

/-- A single zero is a digit. -/
theorem isDigit_zero : ∀ character ∈ ['0'], character.isDigit :=
  List.forall_mem_singleton.2 (by decide)

/-- Digits followed by zeros read as the digits times a power of ten. -/
theorem ofDigitChars_zeros (digits zeros : Nat) :
    Nat.ofDigitChars 10 (Nat.toDigits 10 digits ++ List.replicate zeros '0') 0 =
      digits * 10 ^ zeros := by
  rw [Nat.ofDigitChars_append, Nat.ofDigitChars_ten_toDigits, Nat.ofDigitChars_replicate_zero,
    Nat.mul_comm]

/-- A whole number that is written out. -/
theorem readDecimal?_zeros (digits zeros : Nat) (whole : suffix = [] ∨ suffix = ['.', '0']) :
    ∃ read, readDecimal? (Nat.toDigits 10 digits ++ List.replicate zeros '0' ++ suffix) = some read ∧
      read.normalize = Decimal.normalize ⟨digits, zeros⟩ := by
  have all : ∀ character ∈ Nat.toDigits 10 digits ++ List.replicate zeros '0', character.isDigit :=
    List.forall_mem_append.2 ⟨isDigit_of_mem_toDigits, isDigit_of_mem_zeros⟩
  have present : Nat.toDigits 10 digits ++ List.replicate zeros '0' ≠ [] :=
    List.append_ne_nil_of_left_ne_nil Nat.toDigits_ne_nil _
  rcases whole with rfl | rfl
  · refine ⟨_, readDecimal?_whole all present (by rintro character ⟨⟩), ?_⟩
    rw [ofDigitChars_zeros, ← Decimal.normalize_shift digits zeros zeros, Int.sub_self]
  · refine ⟨_, readDecimal?_fraction all present isDigit_zero, ?_⟩
    have more : Nat.toDigits 10 digits ++ List.replicate zeros '0' ++ ['0'] =
        Nat.toDigits 10 digits ++ List.replicate (zeros + 1) '0' := by
      rw [List.replicate_succ', List.append_assoc]
    have exponent : -(['0'].length : Int) = zeros - (zeros + 1 : Nat) := by
      rw [List.length_singleton]
      omega
    rw [more, ofDigitChars_zeros, exponent, Decimal.normalize_shift]

/-- A number that is written with the point among its digits. -/
theorem readDecimal?_among (digits place : Nat) (positive : 0 < place) :
    readDecimal?
        ((Nat.toDigits 10 digits).take place ++ '.' :: (Nat.toDigits 10 digits).drop place) =
      some ⟨digits, -((digitCount digits - place : Nat) : Int)⟩ := by
  have front : ∀ character ∈ (Nat.toDigits 10 digits).take place, character.isDigit :=
    fun character member => isDigit_of_mem_toDigits character (List.mem_of_mem_take member)
  have back : ∀ character ∈ (Nat.toDigits 10 digits).drop place, character.isDigit :=
    fun character member => isDigit_of_mem_toDigits character (List.mem_of_mem_drop member)
  have present : (Nat.toDigits 10 digits).take place ≠ [] := by
    simp [Nat.toDigits_ne_nil, positive.ne']
  rw [readDecimal?_fraction front present back, List.take_append_drop,
    Nat.ofDigitChars_ten_toDigits, List.length_drop]
  rfl

/-- A number that is written with zeros between the point and its digits. -/
theorem readDecimal?_below (digits zeros : Nat) :
    readDecimal? ('0' :: '.' :: (List.replicate zeros '0' ++ Nat.toDigits 10 digits)) =
      some ⟨digits, -((zeros + digitCount digits : Nat) : Int)⟩ := by
  have back : ∀ character ∈ List.replicate zeros '0' ++ Nat.toDigits 10 digits, character.isDigit :=
    List.forall_mem_append.2 ⟨isDigit_of_mem_zeros, isDigit_of_mem_toDigits⟩
  have value : Nat.ofDigitChars 10 (['0'] ++ (List.replicate zeros '0' ++ Nat.toDigits 10 digits)) 0 =
      digits := by
    rw [Nat.ofDigitChars_append, Nat.ofDigitChars_append, Nat.ofDigitChars_replicate_zero]
    exact Nat.ofDigitChars_ten_toDigits
  have read := readDecimal?_fraction isDigit_zero (List.cons_ne_nil _ _) back
  rw [value, List.length_append, List.length_replicate] at read
  exact read

/-- A number that is written out reads as a number with the same normal form. -/
theorem readDecimal?_positionalText (whole : suffix = [] ∨ suffix = ['.', '0'])
    (decimal : Decimal) :
    ∃ read, readDecimal? (positionalText suffix decimal) = some read ∧
      read.normalize = decimal.normalize := by
  have magnitude : decimal.magnitude = decimal.exponent + digitCount decimal.digits := rfl
  unfold positionalText
  simp only
  split
  · rename_i large
    obtain ⟨read, found, same⟩ := readDecimal?_zeros decimal.digits decimal.exponent.toNat whole
    rw [Int.toNat_of_nonneg large] at same
    exact ⟨read, found, same⟩
  · split
    · rename_i small above
      have exponent : -((digitCount decimal.digits - decimal.magnitude.toNat : Nat) : Int) =
          decimal.exponent := by omega
      refine ⟨_, readDecimal?_among decimal.digits decimal.magnitude.toNat (by omega), ?_⟩
      rw [exponent]
    · rename_i small below
      have exponent : -(((-decimal.magnitude).toNat + digitCount decimal.digits : Nat) : Int) =
          decimal.exponent := by omega
      refine ⟨_, readDecimal?_below decimal.digits (-decimal.magnitude).toNat, ?_⟩
      rw [exponent]

/-- A number that is written with an exponent reads as that number. -/
theorem readDecimal?_scientificText (plus : suffix = [] ∨ suffix = ['+']) (decimal : Decimal) :
    readDecimal? (scientificText suffix decimal) = some decimal := by
  have digits : ∀ character ∈ Nat.toDigits 10 decimal.digits, character.isDigit :=
    isDigit_of_mem_toDigits
  have value : Nat.ofDigitChars 10 (Nat.toDigits 10 decimal.digits) 0 = decimal.digits :=
    Nat.ofDigitChars_ten_toDigits
  have magnitude : decimal.magnitude =
      decimal.exponent + (Nat.toDigits 10 decimal.digits).length := rfl
  have exponent := readExponent?_text plus (decimal.magnitude - 1)
  unfold scientificText
  simp only
  generalize (if decimal.magnitude - 1 < 0 then ['-'] else suffix) ++
    Nat.toDigits 10 (decimal.magnitude - 1).natAbs = scaling at *
  have mark : ∀ character ∈ ('e' :: scaling).head?, ¬character.isDigit ∧ character ≠ '.' := by
    rintro character ⟨⟩
    decide
  cases layout : Nat.toDigits 10 decimal.digits with
  | nil => exact absurd layout Nat.toDigits_ne_nil
  | cons first rest =>
    rw [layout] at digits value magnitude
    obtain ⟨digit, others⟩ := List.forall_mem_cons.1 digits
    have single : ∀ character ∈ [first], character.isDigit := List.forall_mem_singleton.2 digit
    cases rest with
    | nil =>
      have same : decimal.magnitude - 1 = decimal.exponent := by
        rw [List.length_singleton] at magnitude
        omega
      simp only
      rw [readDecimal?_whole single (List.cons_ne_nil _ _) mark, exponent, Option.map_some, value,
        same]
    | cons second more =>
      have same : decimal.magnitude - 1 - ((second :: more).length : Int) = decimal.exponent := by
        rw [List.length_cons] at magnitude
        omega
      have read := readDecimal?_point single (List.cons_ne_nil _ _) others
        fun character member => (mark character member).1
      rw [exponent, Option.map_some, same] at read
      exact read.trans (congrArg (fun digits => some (Decimal.mk digits decimal.exponent)) value)

/-- A decimal number in any readable layout reads as a number with the same normal
form. -/
theorem Style.Readable.readDecimal?_decimalText {style : Style} (readable : style.Readable)
    (decimal : Decimal) :
    ∃ read, readDecimal? (style.decimalText decimal) = some read ∧
      read.normalize = decimal.normalize := by
  unfold Style.decimalText
  split
  · exact readDecimal?_positionalText readable.wholeSuffix decimal
  · exact ⟨decimal, readDecimal?_scientificText readable.plusSign decimal, rfl⟩

/-- The digits of a finite double in any readable layout read as that double. -/
theorem Style.Readable.readDecimal?_shortest {style : Style} (readable : style.Readable)
    {bits : Nat} (finite : bits < infinityBits) (negative : Bool) :
    ∃ read, readDecimal? (style.decimalText (shortest style.tie bits)) = some read ∧
      read.toFloat negative = ofSignBits negative bits := by
  obtain ⟨read, found, same⟩ := readable.readDecimal?_decimalText (shortest style.tie bits)
  refine ⟨read, found, ?_⟩
  rw [Decimal.toFloat, same, normalize_shortest, toBits_shortest finite]

/-- The text of a finite double is its digits, behind a minus sign where it has one. -/
theorem Style.toList_text_ofSignBits (style : Style) {negative : Bool} {bits : Nat}
    (finite : bits < infinityBits) :
    (style.text (ofSignBits negative bits)).toList =
      if negative then '-' :: style.decimalText (shortest style.tie bits)
      else style.decimalText (shortest style.tie bits) := by
  rw [Style.text, String.toList_ofList, Style.characters]
  simp only [isNaN_ofSignBits finite, isInf_ofSignBits finite, isNegative_ofSignBits finite,
    magnitudeBits_ofSignBits finite, Bool.false_eq_true, ↓reduceIte]

end Text

end KalmanHeader.Number
