import KalmanHeader.Json.Layout
import KalmanHeader.Json.Numeral
import KalmanHeader.Proofs.Number.Numeral

/-!
# Written doubles as numerals

A finite double is written as a numeral with a point or an exponent, so that it is read
as a double and not as an integer. A numeral ends where the text goes on with anything but
a digit, a point or an exponent mark, and what it is read as does not depend on what
follows. So a double that is read back from its own text is read back from any text that
it stands in.
-/

namespace KalmanHeader.Json

open Number

/-- Whether a text does not go on with a numeral. -/
def EndsNumeral (rest : List Char) : Prop :=
  ∀ character ∈ rest.head?,
    ¬character.isDigit ∧ character ≠ '.' ∧ character ≠ 'e' ∧ character ≠ 'E'

/-- A text that begins with another character does not go on with a numeral. -/
theorem endsNumeral_cons {character : Char} {rest : List Char}
    (other : ¬character.isDigit ∧ character ≠ '.' ∧ character ≠ 'e' ∧ character ≠ 'E') :
    EndsNumeral (character :: rest) := by
  rintro _ ⟨⟩
  exact other

namespace Numeral

/-- The point and the digits after it, if there is a point. -/
def fractionCharacters : Option (List Char) → List Char
  | none => []
  | some digits => '.' :: digits

/-- The exponent mark with its sign and digits, if there is a mark. -/
def exponentCharacters : Option (Bool × List Char) → List Char
  | none => []
  | some (negative, digits) => 'e' :: (if negative then '-' else '+') :: digits

/-- The text of the numeral after its sign. -/
def characters (numeral : Numeral) : List Char :=
  numeral.whole ++ (fractionCharacters numeral.fraction ++ exponentCharacters numeral.exponent)

/-- The text of the numeral. -/
def signed (numeral : Numeral) : List Char :=
  (if numeral.negative then ['-'] else []) ++ numeral.characters

/-- The value of the numeral, which is broken if the numeral is malformed. -/
def value (numeral : Numeral) : Json :=
  if numeral.isProper then numeral.toJson else .broken

/-- Whether the parts are made of digits, of which some are in front. -/
structure IsSpelled (numeral : Numeral) : Prop where
  whole : ∀ character ∈ numeral.whole, character.isDigit
  present : numeral.whole ≠ []
  fraction : ∀ digits ∈ numeral.fraction, ∀ character ∈ digits, character.isDigit
  exponent : ∀ part ∈ numeral.exponent, ∀ character ∈ part.2, character.isDigit

/-- Whether the numeral has a point or an exponent. -/
def IsFractional (numeral : Numeral) : Prop :=
  numeral.fraction.isSome ∨ numeral.exponent.isSome

section Reading

variable {numeral : Numeral} {rest : List Char}

/-- What follows a fraction. -/
theorem endsNumeral_exponent (ends : EndsNumeral rest) (exponent : Option (Bool × List Char)) :
    ∀ character ∈ (exponentCharacters exponent ++ rest).head?,
      ¬character.isDigit ∧ character ≠ '.' := by
  cases exponent with
  | none => exact fun character first => ⟨(ends character first).1, (ends character first).2.1⟩
  | some part =>
    rintro _ ⟨⟩
    decide

/-- A fraction is read back. -/
theorem readFraction_characters {fraction : Option (List Char)}
    (digits : ∀ part ∈ fraction, ∀ character ∈ part, character.isDigit)
    (stop : ∀ character ∈ rest.head?, ¬character.isDigit ∧ character ≠ '.') :
    readFraction (fractionCharacters fraction ++ rest) = (fraction, rest) := by
  cases fraction with
  | none =>
    cases rest with
    | nil => rfl
    | cons first others =>
      have noPoint : first ≠ '.' := (stop first rfl).2
      simp [fractionCharacters, readFraction, noPoint]
  | some part =>
    have stop' : ∀ character ∈ rest.head?, ¬character.isDigit :=
      fun character first => (stop character first).1
    simp [fractionCharacters, readFraction, Text.takeWhile_run (digits part rfl) stop',
      Text.dropWhile_run (digits part rfl) stop']

/-- An exponent is read back. -/
theorem readExponent_characters {exponent : Option (Bool × List Char)}
    (digits : ∀ part ∈ exponent, ∀ character ∈ part.2, character.isDigit)
    (ends : EndsNumeral rest) :
    readExponent (exponentCharacters exponent ++ rest) = (exponent, rest) := by
  cases exponent with
  | none =>
    cases rest with
    | nil => rfl
    | cons first others =>
      have noMark := (ends first rfl).2.2
      simp [exponentCharacters, readExponent, noMark]
  | some part =>
    obtain ⟨negative, part⟩ := part
    have stop : ∀ character ∈ rest.head?, ¬character.isDigit :=
      fun character first => (ends character first).1
    have digits' : ∀ character ∈ part, character.isDigit := digits _ rfl
    cases negative <;>
      simp [exponentCharacters, readExponent, Text.takeWhile_run digits' stop,
        Text.dropWhile_run digits' stop]

/-- A numeral is read back, whatever follows it. -/
theorem readNumeral_characters (spelled : numeral.IsSpelled) (ends : EndsNumeral rest) :
    readNumeral numeral.negative (numeral.characters ++ rest) = (numeral.value, rest) := by
  have stop := endsNumeral_exponent ends numeral.exponent
  have front : ∀ character ∈ (fractionCharacters numeral.fraction ++
      (exponentCharacters numeral.exponent ++ rest)).head?, ¬character.isDigit := by
    cases numeral.fraction with
    | none => exact fun character first => (stop character first).1
    | some part =>
      rintro _ ⟨⟩
      decide
  have read : readUnsigned numeral.negative (numeral.characters ++ rest) = (numeral, rest) := by
    unfold readUnsigned characters
    rw [List.append_assoc, List.append_assoc, Text.takeWhile_run spelled.whole front,
      Text.dropWhile_run spelled.whole front, readFraction_characters spelled.fraction stop]
    simp only
    rw [readExponent_characters spelled.exponent ends]
  rw [readNumeral, read]
  rfl

/-- A numeral with a point or an exponent is a double, unless it is malformed or too
large. -/
theorem value_of_isFractional (fractional : numeral.IsFractional) :
    numeral.value = .broken ∨ ∃ double, numeral.value = .float double := by
  have marked : (numeral.fraction.isSome || numeral.exponent.isSome) = true := by
    rw [Bool.or_eq_true]
    exact fractional
  unfold value toJson toDouble
  simp only [marked, ↓reduceIte]
  split
  · split
    · exact .inl rfl
    · exact .inr ⟨_, rfl⟩
  · exact .inl rfl

/-- The first character of a numeral without sign is a digit. -/
theorem exists_digit (spelled : numeral.IsSpelled) :
    ∃ first others, numeral.characters = first :: others ∧ first.isDigit := by
  obtain ⟨first, others, whole⟩ := List.exists_cons_of_ne_nil spelled.present
  refine ⟨first, others ++ (fractionCharacters numeral.fraction ++
    exponentCharacters numeral.exponent), ?_, spelled.whole first (whole ▸ List.mem_cons_self)⟩
  rw [characters, whole, List.cons_append]

end Reading

section Writing

variable {decimal : Decimal}

/-- Digits around a point are a numeral. -/
theorem exists_pointed (negative : Bool) {whole fraction : List Char}
    (front : ∀ character ∈ whole, character.isDigit) (present : whole ≠ [])
    (back : ∀ character ∈ fraction, character.isDigit) :
    ∃ numeral : Numeral, numeral.negative = negative ∧ numeral.IsSpelled ∧
      numeral.IsFractional ∧ numeral.characters = whole ++ '.' :: fraction := by
  refine ⟨⟨negative, whole, some fraction, none⟩, rfl, ⟨front, present, ?_, nofun⟩, .inl rfl, ?_⟩
  · rintro _ ⟨⟩
    exact back
  · rw [characters, fractionCharacters, exponentCharacters, List.append_nil]

/-- A number that is written out is a numeral with a point. -/
theorem exists_positional (negative : Bool) (decimal : Decimal) :
    ∃ numeral : Numeral, numeral.negative = negative ∧ numeral.IsSpelled ∧
      numeral.IsFractional ∧ numeral.characters = positionalText ['.', '0'] decimal := by
  have digits := @isDigit_of_mem_toDigits decimal.digits
  unfold positionalText
  simp only
  split
  · exact exists_pointed negative (List.forall_mem_append.2 ⟨digits, isDigit_of_mem_zeros⟩)
      (List.append_ne_nil_of_left_ne_nil Nat.toDigits_ne_nil _) isDigit_zero
  · split
    · rename_i above
      have present : (Nat.toDigits 10 decimal.digits).take decimal.magnitude.toNat ≠ [] := by
        simp [Nat.toDigits_ne_nil, above]
      exact exists_pointed negative
        (fun character member => digits character (List.mem_of_mem_take member)) present
        fun character member => digits character (List.mem_of_mem_drop member)
    · exact exists_pointed negative isDigit_zero (List.cons_ne_nil _ _)
        (List.forall_mem_append.2 ⟨isDigit_of_mem_zeros, digits⟩)

/-- A number that is written with a power of ten is a numeral with an exponent. -/
theorem exists_scientific (negative : Bool) (decimal : Decimal) :
    ∃ numeral : Numeral, numeral.negative = negative ∧ numeral.IsSpelled ∧
      numeral.IsFractional ∧ numeral.characters = scientificText ['+'] decimal := by
  have digits := @isDigit_of_mem_toDigits decimal.digits
  let power : Bool × List Char :=
    (decide (decimal.magnitude - 1 < 0), Nat.toDigits 10 (decimal.magnitude - 1).natAbs)
  have spelled : ∀ part ∈ some power, ∀ character ∈ part.2, character.isDigit := by
    rintro _ ⟨⟩
    exact isDigit_of_mem_toDigits
  have text : exponentCharacters (some power) =
      'e' :: ((if decimal.magnitude - 1 < 0 then ['-'] else ['+']) ++ power.2) := by
    by_cases below : decimal.magnitude - 1 < 0 <;> simp [power, exponentCharacters, below]
  cases layout : Nat.toDigits 10 decimal.digits with
  | nil => exact absurd layout Nat.toDigits_ne_nil
  | cons first others =>
    rw [layout] at digits
    obtain ⟨digit, more⟩ := List.forall_mem_cons.1 digits
    have single : ∀ character ∈ [first], character.isDigit := List.forall_mem_singleton.2 digit
    unfold scientificText
    simp only [layout]
    cases others with
    | nil =>
      refine ⟨⟨negative, [first], none, some power⟩, rfl,
        ⟨single, List.cons_ne_nil _ _, nofun, spelled⟩, .inr rfl, ?_⟩
      rw [characters, text]
      rfl
    | cons second further =>
      refine ⟨⟨negative, [first], some (second :: further), some power⟩, rfl,
        ⟨single, List.cons_ne_nil _ _, ?_, spelled⟩, .inr rfl, ?_⟩
      · rintro _ ⟨⟩
        exact more
      · rw [characters, text]
        simp [fractionCharacters, power]

/-- A decimal number is written as a numeral with a point or an exponent. -/
theorem exists_decimalText (negative : Bool) (decimal : Decimal) :
    ∃ numeral : Numeral, numeral.negative = negative ∧ numeral.IsSpelled ∧
      numeral.IsFractional ∧ numeral.characters = numberStyle.decimalText decimal := by
  unfold Style.decimalText
  split
  · exact exists_positional negative decimal
  · exact exists_scientific negative decimal

/-- A finite double is written as a numeral with a point or an exponent. -/
theorem exists_characters {value : Float} (number : value.isNaN = false)
    (bounded : value.isInf = false) :
    ∃ numeral : Numeral, numeral.IsSpelled ∧ numeral.IsFractional ∧
      numberStyle.characters value = numeral.signed := by
  obtain ⟨numeral, sign, spelled, fractional, text⟩ :=
    exists_decimalText (isNegative value) (shortest numberStyle.tie (magnitudeBits value))
  refine ⟨numeral, spelled, fractional, ?_⟩
  rw [Style.characters, number, bounded, signed, sign, text]
  cases isNegative value <;> rfl

end Writing

end Numeral

end KalmanHeader.Json
