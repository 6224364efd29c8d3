import KalmanHeader.Calculus.Simplify

/-!
# Derivatives

The partial derivative of an expression by a symbol is built by the rules of
calculus, one for each kind of node, with the simplifying constructors. A
subtree without the symbol contributes zero and is not entered.
-/

namespace KalmanHeader

namespace Derivative

variable {ν : Type} [Scalar ν]

/-- The square of an operand. -/
def square (operand : Expr ν) : Expr ν :=
  Simplify.pow operand (.literal Scalar.two)

/-- One minus the square of an operand. -/
def oneMinusSquare (operand : Expr ν) : Expr ν :=
  Simplify.sub .one (square operand)

/-- The derivative of an elementary function at `argument`. -/
def ofElementary (function : Elementary) (argument : Expr ν) : Expr ν :=
  match function with
  | .sin => .call .cos argument
  | .cos => Simplify.neg (.call .sin argument)
  | .tan => Simplify.div .one (square (.call .cos argument))
  | .asin => Simplify.div .one (.call .sqrt (oneMinusSquare argument))
  | .acos => Simplify.neg (Simplify.div .one (.call .sqrt (oneMinusSquare argument)))
  | .atan => Simplify.div .one (Simplify.add .one (square argument))
  | .sinh => .call .cosh argument
  | .cosh => .call .sinh argument
  | .tanh => Simplify.sub .one (square (.call .tanh argument))
  | .exp => .call .exp argument
  | .ln => Simplify.div .one argument
  | .sqrt => Simplify.div .one (Simplify.mul (.literal Scalar.two) (.call .sqrt argument))
  | .abs => Simplify.div argument (.call .abs argument)

/-- One less than an exponent. -/
def predecessor : Expr ν → Expr ν
  | .literal value => .literal (Scalar.operate .sub value Scalar.one)
  | exponent => Simplify.sub exponent .one

/-- The derivative of `base` raised to an exponent free of the symbol, where
`base'` is the derivative of `base`. -/
def ofConstantExponent (base exponent base' : Expr ν) : Expr ν :=
  Simplify.mul (Simplify.mul exponent (Simplify.pow base (predecessor exponent))) base'

/-- The derivative of a base free of the symbol raised to `exponent`, where
`exponent'` is the derivative of `exponent`. -/
def ofConstantBase (base exponent exponent' : Expr ν) : Expr ν :=
  Simplify.mul (Simplify.mul (Simplify.pow base exponent) (.call .ln base)) exponent'

/-- The derivative of a power whose base and exponent both have derivatives. -/
def ofPower (base exponent base' exponent' : Expr ν) : Expr ν :=
  Simplify.mul (Simplify.pow base exponent)
    (Simplify.add (Simplify.mul exponent' (.call .ln base))
      (Simplify.div (Simplify.mul exponent base') base))

/-- The derivative of an operation on `left` and `right`, where `left'` and
`right'` are their derivatives by `name`. -/
def ofOperation (name : String) (operation : Operation) (left right left' right' : Expr ν) :
    Expr ν :=
  match operation with
  | .add => Simplify.add left' right'
  | .sub => Simplify.sub left' right'
  | .mul => Simplify.add (Simplify.mul left' right) (Simplify.mul left right')
  | .div =>
    if right.contains name then
      Simplify.div (Simplify.sub (Simplify.mul left' right) (Simplify.mul left right'))
        (square right)
    else Simplify.div left' right
  | .pow =>
    if right.contains name then
      if left.contains name then ofPower left right left' right'
      else ofConstantBase left right right'
    else ofConstantExponent left right left'
  | .atan2 =>
    Simplify.div (Simplify.sub (Simplify.mul right left') (Simplify.mul left right'))
      (Simplify.add (square right) (square left))

end Derivative

namespace Expr

variable {ν : Type} [Scalar ν]

/-- The derivative of the expression by the symbol `name`, as the rules build
it. -/
def derivative (name : String) (expr : Expr ν) : Expr ν :=
  if expr.contains name then
    match expr with
    | .literal _ => .zero
    | .symbol _ => .one
    | .neg operand => Simplify.neg (operand.derivative name)
    | .binary operation left right =>
      Derivative.ofOperation name operation left right (left.derivative name)
        (right.derivative name)
    | .call function argument =>
      Simplify.mul (Derivative.ofElementary function argument) (argument.derivative name)
  else .zero

/-- The simplified partial derivative of the expression by the symbol `name`. -/
def diff (name : String) (expr : Expr ν) : Expr ν :=
  (expr.derivative name).simplify

end Expr

end KalmanHeader
