import KalmanHeader.Number.Binary

/-!
# The fewest digits that name a double

The text of a double should read back as the same double and be no longer than
that takes. `shortest` walks through the decimal grids from one digit to
seventeen. On each grid only the two neighbours of the value can be the answer,
and each is tried by rounding it back; of two that pass, the nearer is taken.
-/

namespace KalmanHeader.Number

/-- Which of two equally near decimal numbers is taken. -/
inductive Tie where
  | up
  | toEven
  deriving DecidableEq, Repr

/-- The power of ten just above the positive fraction. -/
def fractionMagnitude (numerator denominator : Nat) : Int :=
  if denominator ≤ numerator then digitCount (numerator / denominator)
  else 1 - digitCount ((denominator - 1) / numerator)

/-- The shorter of two candidates on one decimal grid: the one of `below` and
`below + 1`, times `10 ^ exponent`, that rounds to `bits`. Where both do, the
nearer to the fraction `below + remainder / divisor` is taken, and `tie`
decides between equally near ones. -/
def gridCandidate? (tie : Tie) (bits below remainder divisor : Nat) (exponent : Int) :
    Option Decimal :=
  let low : Decimal := ⟨below, exponent⟩
  let high : Decimal := ⟨below + 1, exponent⟩
  match low.normalize.toBits == bits, high.normalize.toBits == bits with
  | false, false => none
  | true, false => some low
  | false, true => some high
  | true, true =>
    match compare (2 * remainder) divisor, tie with
    | .lt, _ => some low
    | .gt, _ => some high
    | .eq, .up => some high
    | .eq, .toEven => if below % 2 = 0 then some low else some high

/-- The candidate with `count` digits for the magnitude with pattern `bits`. -/
def candidate? (tie : Tie) (bits : Nat) (magnitude : Magnitude) (count : Nat) :
    Option Decimal :=
  let exponent := fractionMagnitude magnitude.numerator magnitude.denominator - count
  let dividend := magnitude.numerator * Nat.pow 10 (-exponent).toNat
  let divisor := magnitude.denominator * Nat.pow 10 exponent.toNat
  gridCandidate? tie bits (dividend / divisor) (dividend % divisor) divisor exponent

/-- The magnitude as a decimal number, with all of its digits. -/
def Magnitude.toDecimal (magnitude : Magnitude) : Decimal :=
  if 0 ≤ magnitude.exponent then ⟨magnitude.mantissa * Nat.pow 2 magnitude.exponent.toNat, 0⟩
  else ⟨magnitude.mantissa * Nat.pow 5 (-magnitude.exponent).toNat, magnitude.exponent⟩

/-- The decimal number with the fewest digits that rounds to the finite pattern
`bits`, and of those the nearest, in normal form. -/
def shortest (tie : Tie) (bits : Nat) : Decimal :=
  let magnitude := Magnitude.ofBits bits
  if magnitude.mantissa = 0 then ⟨0, 0⟩
  else
    let found := (List.range' 1 17).findSome? (candidate? tie bits magnitude)
    (found.getD magnitude.toDecimal).normalize

end KalmanHeader.Number
