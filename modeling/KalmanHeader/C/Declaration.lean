import KalmanHeader.C.Expression
import KalmanHeader.Expr.Grid

/-!
# Array declarations in C

An array of expressions becomes one declaration of constants, whose initializer
lists the elements row by row. C has no arrays without elements: in place of
one, a single zero is declared, and a comment keeps the shape.
-/

namespace KalmanHeader.C

/-- The declaration of `array` under `name`. -/
def declaration (naming : Naming) (name : String) (array : ExprArray Float) : String :=
  if array.size = 0 then
    "const double " ++ name ++ "[1] = \x7b0.0\x7d; /* empty " ++ toString array.shape.1 ++ "x" ++
      toString array.shape.2 ++ " */"
  else
    "const double " ++ name ++ "[" ++ toString array.size ++ "] = \x7b" ++
      separator.intercalate (array.rowMajor.map (expression naming)) ++ "\x7d;"

end KalmanHeader.C
