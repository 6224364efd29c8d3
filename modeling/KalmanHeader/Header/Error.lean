import KalmanHeader.Calculus.Jacobian
import KalmanHeader.Constants.Substitution
import KalmanHeader.Expr.Display

/-!
# Errors of a header

A header is refused for what its description says, never for where it is
written: a state entry that is no symbol or comes twice, an array of the wrong
shape, a name that C does not allow or that is taken, or constants that refer to
each other in a circle.
-/

namespace KalmanHeader

/-- Why there is no header for a description. -/
inductive HeaderError where
  | invalidTarget (target : InvalidTarget Float)
  /-- The transition does not have one entry for each state symbol. -/
  | wrongLength (expected found : Nat)
  /-- A supplied Jacobian does not have a row for each output and a column for
  each state symbol. -/
  | wrongShape (matrix : String) (expected found : Nat × Nat)
  | duplicateSymbol (name : String)
  | duplicateName (name : String)
  | invalidIdentifier (name : String)
  | cyclicConstant (cycle : CyclicConstant)
  deriving DecidableEq, Repr

/-- The text of a mismatch between what was expected and what was found. -/
def mismatchMessage (subject expected found : String) : String :=
  "Dimension mismatch for " ++ subject ++ ": expected " ++ expected ++ ", got " ++ found

/-- The text of the error for a row of the wrong length. -/
def RaggedRow.message (row : RaggedRow) : String :=
  mismatchMessage ("matrix row " ++ toString row.index) (toString row.expected ++ " columns")
    (toString row.found ++ " columns")

/-- The text of the error for an input that is no symbol. -/
def InvalidTarget.message (target : InvalidTarget Float) : String :=
  "Cannot differentiate with respect to input " ++ toString target.index ++ " ('" ++
    target.expr.display ++ "'): not a symbol"

/-- The text of the error for a circle of constants. -/
def CyclicConstant.message (cycle : CyclicConstant) : String :=
  "Constant '" ++ cycle.name ++ "' is defined in terms of itself"

/-- The text of a number of rows and columns. -/
def shapeText (shape : Nat × Nat) : String :=
  toString shape.1 ++ "x" ++ toString shape.2

/-- The text of a header error. -/
def HeaderError.message : HeaderError → String
  | .invalidTarget target => target.message
  | .wrongLength expected found =>
    mismatchMessage "px" ("length " ++ toString expected) ("length " ++ toString found)
  | .wrongShape matrix expected found =>
    mismatchMessage matrix (shapeText expected) (shapeText found)
  | .duplicateSymbol name => "Symbol '" ++ name ++ "' appears more than once in the state vector"
  | .duplicateName name => "Name '" ++ name ++ "' is used by more than one generated declaration"
  | .invalidIdentifier name => "'" ++ name ++ "' is not a valid C identifier"
  | .cyclicConstant cycle => cycle.message

end KalmanHeader
