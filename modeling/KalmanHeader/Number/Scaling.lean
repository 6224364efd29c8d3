import KalmanHeader.Number.Binary

/-!
# Scaling doubles by powers of ten

A decimal number becomes a double in two steps: its digits are rounded, and the
result is multiplied or divided by the rounded power of ten. Every step rounds
again, so the outcome is near the decimal number without always being the
nearest double; `Decimal.toFloat` is the way to that one. A power of ten beyond
the doubles is applied in parts.
-/

namespace KalmanHeader.Number

/-- The greatest power of ten that is a double. -/
def greatestPower : Nat := 308

/-- The double nearest to a power of ten. -/
def powerOfTen (exponent : Nat) : Float :=
  Decimal.toFloat false ⟨1, exponent⟩

/-- The double `value` times `10 ^ exponent`, where each multiplication or
division rounds. There is none if it is too large. -/
def scale? (value : Float) (exponent : Int) : Option Float :=
  if greatestPower < exponent then
    if value == 0.0 then some value else none
  else if 0 ≤ exponent then
    let product := value * powerOfTen exponent.toNat
    if product.isInf then none else some product
  else if _small : exponent < -greatestPower then
    if value == 0.0 then some value
    else scale? (value / powerOfTen greatestPower) (exponent + greatestPower)
  else some (value / powerOfTen (-exponent).toNat)
termination_by exponent.natAbs
decreasing_by
  simp only [greatestPower] at *
  omega

/-- The double that the digits of a decimal number are scaled to. -/
def Decimal.scaled? (decimal : Decimal) : Option Float :=
  scale? (Decimal.toFloat false ⟨decimal.digits, 0⟩) decimal.exponent

end KalmanHeader.Number
