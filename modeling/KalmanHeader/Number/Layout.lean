import KalmanHeader.Number.Shortest

/-!
# Laying out the text of a double

Once the digits are chosen, a text format only decides where the point goes,
when an exponent is written instead of zeros, and how the values without digits
are spelled. A `Style` records those decisions, and `Style.text` carries them
out.
-/

namespace KalmanHeader.Number

/-- The decisions of one text format for doubles. -/
structure Style where
  /-- Whether a number whose leading digit stands for `10 ^ exponent` is
  written without an exponent. -/
  isPositional : Int → Bool
  /-- What follows the digits of a whole number. -/
  wholeSuffix : List Char
  /-- What precedes the digits of an exponent that is not negative. -/
  plusSign : List Char
  /-- Which of two equally near shortest numbers is written. -/
  tie : Tie
  /-- The text of the value that is not a number. -/
  nan : List Char
  /-- The text of positive infinity. -/
  infinity : List Char
  /-- The text of negative infinity. -/
  negativeInfinity : List Char

/-- The digits of a decimal number with a point among zeros where it is needed. -/
def positionalText (wholeSuffix : List Char) (decimal : Decimal) : List Char :=
  let digits := Nat.toDigits 10 decimal.digits
  if 0 ≤ decimal.exponent then
    digits ++ List.replicate decimal.exponent.toNat '0' ++ wholeSuffix
  else if 0 < decimal.magnitude then
    digits.take decimal.magnitude.toNat ++ '.' :: digits.drop decimal.magnitude.toNat
  else
    '0' :: '.' :: (List.replicate (-decimal.magnitude).toNat '0' ++ digits)

/-- The digits of a decimal number with the point after the first of them,
followed by the power of ten of that digit. -/
def scientificText (plusSign : List Char) (decimal : Decimal) : List Char :=
  let exponent := decimal.magnitude - 1
  let sign := if exponent < 0 then ['-'] else plusSign
  let mantissa := match Nat.toDigits 10 decimal.digits with
    | [] => []
    | [digit] => [digit]
    | digit :: rest => digit :: '.' :: rest
  mantissa ++ 'e' :: (sign ++ Nat.toDigits 10 exponent.natAbs)

namespace Style

/-- The text of a decimal number. -/
def decimalText (style : Style) (decimal : Decimal) : List Char :=
  if style.isPositional (decimal.magnitude - 1) then
    positionalText style.wholeSuffix decimal
  else scientificText style.plusSign decimal

/-- The text of a double as a list of characters. -/
def characters (style : Style) (value : Float) : List Char :=
  if value.isNaN then style.nan
  else if value.isInf then
    if isNegative value then style.negativeInfinity else style.infinity
  else
    let digits := style.decimalText (shortest style.tie (magnitudeBits value))
    if isNegative value then '-' :: digits else digits

/-- The text of a double. -/
def text (style : Style) (value : Float) : String :=
  String.ofList (style.characters value)

end Style

/-- Never an exponent, and no point in a whole number. -/
def plainStyle : Style where
  isPositional _ := true
  wholeSuffix := []
  plusSign := []
  tie := .up
  nan := ['N', 'a', 'N']
  infinity := ['i', 'n', 'f']
  negativeInfinity := ['-', 'i', 'n', 'f']

/-- At least one digit after the point, or else an exponent: from `0.0001` up
to but not including `10 ^ 16` the number is written out. -/
def exactStyle : Style where
  isPositional exponent := decide (-4 ≤ exponent ∧ exponent < 16)
  wholeSuffix := ['.', '0']
  plusSign := []
  tie := .up
  nan := ['N', 'a', 'N']
  infinity := ['i', 'n', 'f']
  negativeInfinity := ['-', 'i', 'n', 'f']

end KalmanHeader.Number
