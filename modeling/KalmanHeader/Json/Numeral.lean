import KalmanHeader.Json.Basic
import KalmanHeader.Number.Scaling

/-!
# Numerals of JSON text

A numeral is a whole number in decimal digits, with an optional fraction and an
optional exponent. Whole numbers of up to 64 bits are integers. All others are
doubles: as many leading digits as 64 bits hold are taken for a number, further
ones only count for its size, and the number is scaled in double arithmetic.
-/

namespace KalmanHeader.Json

/-- The parts of a numeral, all of digits. -/
structure Numeral where
  negative : Bool
  whole : List Char
  /-- The digits after the point, if there is one. -/
  fraction : Option (List Char)
  /-- The sign and the digits after the exponent mark, if there is one. -/
  exponent : Option (Bool × List Char)
  deriving Repr

/-- The digits after the point, if there is a point, and the text after them. -/
def readFraction : List Char → Option (List Char) × List Char
  | '.' :: rest => (some (rest.takeWhile Char.isDigit), rest.dropWhile Char.isDigit)
  | rest => (none, rest)

/-- The sign and digits after the exponent mark, if there is a mark, and the text
after them. -/
def readExponent : List Char → Option (Bool × List Char) × List Char
  | mark :: rest =>
    if mark = 'e' ∨ mark = 'E' then
      match rest with
      | '-' :: digits =>
        (some (true, digits.takeWhile Char.isDigit), digits.dropWhile Char.isDigit)
      | '+' :: digits =>
        (some (false, digits.takeWhile Char.isDigit), digits.dropWhile Char.isDigit)
      | digits => (some (false, digits.takeWhile Char.isDigit), digits.dropWhile Char.isDigit)
    else (none, mark :: rest)
  | [] => (none, [])

/-- Reads the parts of an unsigned numeral. -/
def readUnsigned (negative : Bool) (text : List Char) : Numeral × List Char :=
  let fraction := readFraction (text.dropWhile Char.isDigit)
  let exponent := readExponent fraction.2
  (⟨negative, text.takeWhile Char.isDigit, fraction.1, exponent.1⟩, exponent.2)

/-- The greatest number that digits are put together to. -/
def greatestInteger : Nat := 0xFFFFFFFFFFFFFFFF

/-- Appends digits to a number as long as 64 bits hold it. The result is the
number and how many digits it has taken up. -/
def keepDigits (number : Nat) : List Char → Nat × Nat
  | [] => (number, 0)
  | digit :: digits =>
    let longer := number * 10 + (digit.toNat - '0'.toNat)
    if longer ≤ greatestInteger then
      let kept := keepDigits longer digits
      (kept.1, kept.2 + 1)
    else (number, 0)

namespace Numeral

/-- Whether the numeral has all its digits, and no zero in front of others. -/
def isProper (numeral : Numeral) : Bool :=
  numeral.whole ≠ [] && (numeral.whole.head? ≠ some '0' || numeral.whole.length = 1) &&
    numeral.fraction ≠ some [] && numeral.exponent.map Prod.snd ≠ some []

/-- The value of the exponent. -/
def scale (numeral : Numeral) : Int :=
  match numeral.exponent with
  | none => 0
  | some (negative, digits) =>
    let value : Int := Nat.ofDigitChars 10 digits 0
    if negative then -value else value

/-- The numeral as a decimal number with as many of its digits as `keepDigits`
keeps, those after the point being shifted in behind those before it. -/
def decimal (numeral : Numeral) : Number.Decimal :=
  let whole := keepDigits 0 numeral.whole
  let fraction := keepDigits whole.1 (numeral.fraction.getD [])
  ⟨fraction.1, numeral.scale + (numeral.whole.length - whole.2 : Nat) - fraction.2⟩

/-- The number as a double, unless it is too large for one. -/
def toDouble (numeral : Numeral) : Json :=
  match numeral.decimal.scaled? with
  | none => .broken
  | some value => .float (if numeral.negative then -value else value)

/-- The value of a proper numeral. Without point and exponent it is an integer if
64 bits hold it; a negative zero is a double. -/
def toJson (numeral : Numeral) : Json :=
  let value := Nat.ofDigitChars 10 numeral.whole 0
  if numeral.fraction.isSome || numeral.exponent.isSome then numeral.toDouble
  else if numeral.negative then
    if 0 < value ∧ value ≤ 0x8000000000000000 then .integer (-(value : Int)) else numeral.toDouble
  else if value ≤ greatestInteger then .integer value
  else numeral.toDouble

end Numeral

/-- The value of the numeral at the start of a text, from its first digit on, and
what follows it. A malformed numeral is a broken value. -/
def readNumeral (negative : Bool) (text : List Char) : Json × List Char :=
  let read := readUnsigned negative text
  (if read.1.isProper then read.1.toJson else .broken, read.2)

/-- What follows a fraction is no longer than the text at it. -/
theorem length_readFraction_le (text : List Char) :
    (readFraction text).2.length ≤ text.length := by
  unfold readFraction
  split
  · rename_i rest
    have := (List.dropWhile_suffix (l := rest) Char.isDigit).length_le
    simp only [List.length_cons]
    omega
  · exact Nat.le_refl _

/-- What follows some digits is no longer than the text from them on. -/
theorem length_dropWhile_le (text : List Char) :
    (text.dropWhile Char.isDigit).length ≤ text.length :=
  (List.dropWhile_suffix Char.isDigit).length_le

/-- What follows an exponent is no longer than the text at it. -/
theorem length_readExponent_le (text : List Char) :
    (readExponent text).2.length ≤ text.length := by
  unfold readExponent
  split
  · split
    · split
      · exact Nat.le_trans (length_dropWhile_le _) (by simp only [List.length_cons]; omega)
      · exact Nat.le_trans (length_dropWhile_le _) (by simp only [List.length_cons]; omega)
      · exact Nat.le_trans (length_dropWhile_le _) (by simp only [List.length_cons]; omega)
    · exact Nat.le_refl _
  · exact Nat.le_refl _

/-- What follows a numeral is no longer than what follows the digits at its
start. -/
theorem length_readNumeral_le_dropWhile (negative : Bool) (text : List Char) :
    (readNumeral negative text).2.length ≤ (text.dropWhile Char.isDigit).length :=
  Nat.le_trans (length_readExponent_le _) (length_readFraction_le _)

/-- What follows a numeral is no longer than the text at it. -/
theorem length_readNumeral_le (negative : Bool) (text : List Char) :
    (readNumeral negative text).2.length ≤ text.length :=
  Nat.le_trans (length_readNumeral_le_dropWhile negative text) (length_dropWhile_le text)

/-- A digit belongs to the numeral that it starts. -/
theorem length_readNumeral_lt (negative : Bool) {character : Char} (rest : List Char)
    (digit : character.isDigit = true) :
    (readNumeral negative (character :: rest)).2.length < (character :: rest).length := by
  have shorter := length_readNumeral_le_dropWhile negative (character :: rest)
  rw [List.dropWhile_cons, if_pos digit] at shorter
  exact Nat.lt_succ_of_le (Nat.le_trans shorter (length_dropWhile_le rest))

end KalmanHeader.Json
