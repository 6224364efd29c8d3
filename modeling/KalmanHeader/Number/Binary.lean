import KalmanHeader.Number.Decimal

/-!
# Doubles as binary numbers

A finite double is a sign and a magnitude `mantissa * 2 ^ exponent`. Without
its sign bit the pattern of the double is
`(exponent + 1074) * 2 ^ 52 + mantissa`, for the least exponent that a mantissa
below `2 ^ 53` allows; rounding a fraction to the nearest double is therefore
one exact division. All of it is integer arithmetic on bit patterns.
-/

namespace KalmanHeader.Number

/-- The magnitude `mantissa * 2 ^ exponent` of a finite double. -/
structure Magnitude where
  mantissa : Nat
  exponent : Int
  deriving DecidableEq, Repr

/-- The pattern of positive infinity, just above that of the greatest finite
double. -/
def infinityBits : Nat := 0x7FF0000000000000

/-- The weight of the sign bit. -/
def signBit : Nat := 0x8000000000000000

/-- The least mantissa of a double that is not among the smallest, `2 ^ 52`: its
leading bit is not stored. -/
def hiddenBit : Nat := 0x10000000000000

/-- Whether the sign bit of `value` is set. -/
def isNegative (value : Float) : Bool :=
  decide (signBit ≤ value.toBits.toNat)

/-- The pattern of `value` without its sign bit. -/
def magnitudeBits (value : Float) : Nat :=
  value.toBits.toNat % signBit

/-- The magnitude that a finite pattern without sign bit stands for. -/
def Magnitude.ofBits (bits : Nat) : Magnitude :=
  if bits / hiddenBit = 0 then ⟨bits, -1074⟩
  else ⟨hiddenBit + bits % hiddenBit, (bits / hiddenBit : Nat) - 1075⟩

/-- The numerator of the magnitude, read as a fraction over `denominator`. -/
def Magnitude.numerator (magnitude : Magnitude) : Nat :=
  magnitude.mantissa * Nat.pow 2 magnitude.exponent.toNat

/-- The denominator of the magnitude, read as a fraction under `numerator`. -/
def Magnitude.denominator (magnitude : Magnitude) : Nat :=
  Nat.pow 2 (-magnitude.exponent).toNat

/-- The quotient rounded to the nearest natural number, a half to the even
neighbour. -/
def roundedQuotient (numerator denominator : Nat) : Nat :=
  let quotient := numerator / denominator
  match compare (2 * (numerator % denominator)) denominator with
  | .lt => quotient
  | .gt => quotient + 1
  | .eq => if quotient % 2 = 0 then quotient else quotient + 1

/-- The pattern of the double nearest to a fraction, a half going to the even
pattern. Beyond the finite doubles it is the pattern of infinity. -/
def nearestBits (numerator denominator : Nat) : Nat :=
  if numerator = 0 then 0
  else
    let estimate : Int := max (-1074) (numerator.log2 - denominator.log2 - 53)
    let scaled (exponent : Int) : Nat × Nat :=
      (numerator * Nat.pow 2 (-exponent).toNat, denominator * Nat.pow 2 exponent.toNat)
    let exponent :=
      if (scaled estimate).1 / (scaled estimate).2 < 2 * hiddenBit then estimate else estimate + 1
    let mantissa := roundedQuotient (scaled exponent).1 (scaled exponent).2
    min infinityBits ((exponent + 1074).toNat * hiddenBit + mantissa)

/-- The pattern of the double nearest to a decimal number. Numbers far beyond
either end of the doubles are settled by their magnitude alone. -/
def Decimal.toBits (decimal : Decimal) : Nat :=
  if decimal.digits = 0 then 0
  else if 310 < decimal.magnitude then infinityBits
  else if decimal.magnitude < -330 then 0
  else nearestBits decimal.numerator decimal.denominator

/-- The double with the given sign and pattern. -/
def ofSignBits (negative : Bool) (bits : Nat) : Float :=
  Float.ofBits (UInt64.ofNat (if negative then signBit + bits else bits))

/-- The double nearest to a decimal number, with the given sign. -/
def Decimal.toFloat (negative : Bool) (decimal : Decimal) : Float :=
  ofSignBits negative decimal.normalize.toBits

/-- The double that `text` names: an optional sign, then a numeral or, in any
mixture of cases, `inf`, `infinity` or `nan`. -/
def read? (text : List Char) : Option Float :=
  let negative := text.head? = some '-'
  let unsigned := match text with
    | '-' :: rest => rest
    | '+' :: rest => rest
    | rest => rest
  let word := unsigned.map Char.toLower
  if word = ['i', 'n', 'f'] ∨ word = ['i', 'n', 'f', 'i', 'n', 'i', 't', 'y'] then
    some (ofSignBits negative infinityBits)
  else if word = ['n', 'a', 'n'] then some (0.0 / 0.0)
  else (readDecimal? unsigned).map (Decimal.toFloat negative)

end KalmanHeader.Number
