import KalmanHeader.Expr.Basic
import KalmanHeader.Number.Layout

/-!
# Expressions in C

Expressions are written with the operators of C and as few parentheses as its
grouping allows, except that a negation or a negative literal that is an operand
is always enclosed: two minus signs never meet. Powers, angles and elementary
functions are calls. A naming says how each symbol is written.
-/

namespace KalmanHeader.C

/-- How symbols are written. -/
abbrev Naming := String → String

/-- Every symbol is written as its name. -/
def plainNaming : Naming := id

/-- The naming with `text` written for `symbol`. -/
def Naming.rename (naming : Naming) (symbol text : String) : Naming := fun name =>
  if name = symbol then text else naming name

/-- The naming that writes each symbol of `state` as the entry of `array` at its
place. Where a symbol is repeated its last place counts. -/
def stateNaming (array : String) (state : List String) : Naming :=
  state.zipIdx.foldl
    (fun naming entry => naming.rename entry.1 (array ++ "[" ++ toString entry.2 ++ "]"))
    plainNaming

/-- Literals have a digit after the point or an exponent, and the values without
digits are the macros of the C library. -/
def numberStyle : Number.Style where
  isPositional exponent := decide (-4 ≤ exponent ∧ exponent < 16)
  wholeSuffix := ['.', '0']
  plusSign := []
  tie := .up
  nan := "NAN".toList
  infinity := "INFINITY".toList
  negativeInfinity := "(-INFINITY)".toList

/-- The text of a literal. A zero is written without its sign. -/
def number (value : Float) : String :=
  if value == 0.0 then "0.0" else numberStyle.text value

/-- What stands between the items of a list. -/
def separator : String := ", "

/-- How strongly the written form of an expression holds together: a sum, a
product, a negation, or anything else. -/
def strength : Expr Float → Nat
  | .binary .add _ _ | .binary .sub _ _ => 1
  | .binary .mul _ _ | .binary .div _ _ => 2
  | .neg _ => 3
  | _ => 4

/-- Whether the written form of an expression starts with a minus sign. Negative
infinity comes with parentheses of its own. -/
def isSigned : Expr Float → Bool
  | .neg _ => true
  | .literal value => value < 0.0 && value.isFinite
  | _ => false

/-- The text of an operand, in parentheses if `enclose`. -/
def operandText (enclose : Bool) (text : String) : String :=
  if enclose then "(" ++ text ++ ")" else text

/-- The operators that are written between their operands, and their strength. -/
def operator? : Operation → Option (String × Nat)
  | .add => some (" + ", 1)
  | .sub => some (" - ", 1)
  | .mul => some (" * ", 2)
  | .div => some (" / ", 2)
  | .pow | .atan2 => none

/-- The function that an operation is written as a call of. -/
def callName : Operation → String
  | .pow => "pow"
  | .atan2 => "atan2"
  | _ => ""

/-- The text of an expression. A right operand as strong as the operator is
enclosed, since C groups to the left. -/
def expression (naming : Naming) : Expr Float → String
  | .literal value => number value
  | .symbol name => naming name
  | .neg operand =>
    "-" ++ operandText (isSigned operand || strength operand < 3) (expression naming operand)
  | .binary operation left right =>
    match operator? operation with
    | some (sign, level) =>
      operandText (isSigned left || strength left < level) (expression naming left) ++
        sign ++
        operandText (isSigned right || strength right ≤ level) (expression naming right)
    | none =>
      callName operation ++ "(" ++ expression naming left ++ separator ++
        expression naming right ++ ")"
  | .call function argument => function.cName ++ "(" ++ expression naming argument ++ ")"

end KalmanHeader.C
