import KalmanHeader.Expr.Basic
import KalmanHeader.Number.Layout

/-!
# Showing an expression

Expressions are shown in infix form with every operation in parentheses, so the
grouping of the tree can be read off the text. Literals are written out in full,
without exponents.
-/

namespace KalmanHeader

/-- The sign of an operation that is shown between its operands; the angle of a
point is shown as a call. -/
def Operation.sign? : Operation → Option Char
  | .add => some '+'
  | .sub => some '-'
  | .mul => some '*'
  | .div => some '/'
  | .pow => some '^'
  | .atan2 => none

namespace Expr

/-- The expression in fully parenthesised infix form. -/
def display : Expr Float → String
  | .literal value => Number.plainStyle.text value
  | .symbol name => name
  | .neg operand => "-(" ++ operand.display ++ ")"
  | .binary operation left right =>
    match operation.sign? with
    | some sign => "(" ++ left.display ++ " " ++ sign.toString ++ " " ++ right.display ++ ")"
    | none => "atan2(" ++ left.display ++ ", " ++ right.display ++ ")"
  | .call function argument => function.cName ++ "(" ++ argument.display ++ ")"

end Expr

end KalmanHeader
