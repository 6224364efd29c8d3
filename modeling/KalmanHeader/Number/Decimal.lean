/-!
# Decimal numbers

A decimal number is a natural number of digits scaled by a power of ten. This
module holds the type, its normal form, in which no digit is wasted on a
trailing zero, and the reading of an unsigned numeral. How a decimal number is
rounded to a double, and how a double is written, is decided elsewhere.
-/

namespace KalmanHeader.Number

/-- The number `digits * 10 ^ exponent`. -/
structure Decimal where
  digits : Nat
  exponent : Int
  deriving DecidableEq, Repr

/-- How many decimal digits `number` is written with; zero is written with one. -/
def digitCount (number : Nat) : Nat :=
  (Nat.toDigits 10 number).length

namespace Decimal

/-- The numerator of the number, read as a fraction over `denominator`. -/
def numerator (decimal : Decimal) : Nat :=
  decimal.digits * Nat.pow 10 decimal.exponent.toNat

/-- The denominator of the number, read as a fraction under `numerator`. -/
def denominator (decimal : Decimal) : Nat :=
  Nat.pow 10 (-decimal.exponent).toNat

/-- The power of ten just above a number: a nonzero number lies in
`[10 ^ (magnitude - 1), 10 ^ magnitude)`. -/
def magnitude (decimal : Decimal) : Int :=
  decimal.exponent + digitCount decimal.digits

/-- The same number with its trailing zeros moved into the exponent. Zero is
`0 * 10 ^ 0`. -/
def normalize (decimal : Decimal) : Decimal :=
  if decimal.digits = 0 then ⟨0, 0⟩
  else if decimal.digits % 10 = 0 then normalize ⟨decimal.digits / 10, decimal.exponent + 1⟩
  else decimal
termination_by decimal.digits
decreasing_by omega

end Decimal

/-- The value of a scaling suffix: nothing at all, or `e` or `E`, an optional
sign and at least one digit. -/
def readExponent? : List Char → Option Int
  | [] => some 0
  | mark :: rest =>
    if mark = 'e' ∨ mark = 'E' then
      match rest with
      | '-' :: digits => (readDigits? digits).map fun value => -(value : Int)
      | '+' :: digits => (readDigits? digits).map Int.ofNat
      | digits => (readDigits? digits).map Int.ofNat
    else none
where
  /-- The value of a nonempty run of digits. -/
  readDigits? (digits : List Char) : Option Nat :=
    if digits ≠ [] ∧ digits.all Char.isDigit then some (Nat.ofDigitChars 10 digits 0) else none

/-- The value of an unsigned numeral: digits with an optional point before,
between or after them, and an optional scaling suffix. The whole of `text` has
to be the numeral, and it has to hold a digit besides those of the suffix. -/
def readDecimal? (text : List Char) : Option Decimal :=
  let whole := text.takeWhile Char.isDigit
  let afterWhole := text.dropWhile Char.isDigit
  let fraction := match afterWhole with
    | '.' :: rest => rest.takeWhile Char.isDigit
    | _ => []
  let suffix := match afterWhole with
    | '.' :: rest => rest.dropWhile Char.isDigit
    | rest => rest
  if whole ++ fraction = [] then none
  else (readExponent? suffix).map fun exponent =>
    ⟨Nat.ofDigitChars 10 (whole ++ fraction) 0, exponent - fraction.length⟩

end KalmanHeader.Number
