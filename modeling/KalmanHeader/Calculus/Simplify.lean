import KalmanHeader.Expr.Basic

/-!
# Simplification

Simplifying rebuilds an expression from its leaves with constructors that look
only at their operands: they fold operations on literals, drop neutral operands,
collapse products with zero and move signs outwards. Literals are compared as
numbers, so a zero of either sign counts as zero, and folding never leaves a
negative zero behind.
-/

namespace KalmanHeader

namespace Simplify

variable {ν : Type} [Scalar ν]

/-- The literal of a number, where every zero becomes the one zero. -/
def literal (value : ν) : Expr ν :=
  if Scalar.same value Scalar.zero then .zero else .literal value

/-- Whether an operand is the literal minus one. -/
def isMinusOne : Expr ν → Bool :=
  Expr.isLiteral (Scalar.negate Scalar.one)

/-- The opposite of an operand. -/
def neg : Expr ν → Expr ν
  | .literal value => literal (Scalar.negate value)
  | .neg operand => operand
  | operand => .neg operand

mutual

/-- The sum of two operands. Adding an opposite is subtracting. -/
def add (left right : Expr ν) : Expr ν :=
  match left, right with
  | .literal value, .literal value' => literal (Scalar.operate .add value value')
  | left, .neg operand => if left.isZero then .neg operand else sub left operand
  | left, right =>
    if left.isZero then right
    else if right.isZero then left
    else .add left right
termination_by structural right

/-- The difference of two operands. Subtracting an opposite is adding. -/
def sub (left right : Expr ν) : Expr ν :=
  match left, right with
  | .literal value, .literal value' => literal (Scalar.operate .sub value value')
  | left, .neg operand =>
    if left.isZero then operand
    else if left.same (.neg operand) then .zero
    else add left operand
  | left, right =>
    if right.isZero then left
    else if left.isZero then neg right
    else if left.same right then .zero
    else .sub left right
termination_by structural right

end

/-- The product of two operands. Two opposites cancel. -/
def mul (left right : Expr ν) : Expr ν :=
  match left, right with
  | .literal value, .literal value' => literal (Scalar.operate .mul value value')
  | .neg operand, .neg operand' => mul operand operand'
  | _, _ =>
    if left.isZero || right.isZero then .zero
    else if left.isOne then right
    else if right.isOne then left
    else if isMinusOne left then neg right
    else if isMinusOne right then neg left
    else .mul left right

/-- The quotient of two operands that are not folded. -/
def divNeutral (left right : Expr ν) : Expr ν :=
  if left.isZero then .zero
  else if right.isOne then left
  else .div left right

/-- The quotient of two operands. Literals are folded unless the divisor is
zero. -/
def div (left right : Expr ν) : Expr ν :=
  match left, right with
  | .literal value, .literal value' =>
    if Scalar.same value' Scalar.zero then divNeutral left right
    else literal (Scalar.operate .div value value')
  | _, _ => divNeutral left right

/-- The power of two operands that are not folded. -/
def powNeutral (base exponent : Expr ν) : Expr ν :=
  if exponent.isZero then .one
  else if exponent.isOne then base
  else if base.isOne then .one
  else .pow base exponent

/-- The power of two operands. Literals are folded when the result is finite. -/
def pow (base exponent : Expr ν) : Expr ν :=
  match base, exponent with
  | .literal value, .literal value' =>
    if Scalar.isFinite (Scalar.operate .pow value value') then
      literal (Scalar.operate .pow value value')
    else powNeutral base exponent
  | _, _ => powNeutral base exponent

/-- The angle of a point given by two operands. -/
def atan2 (y x : Expr ν) : Expr ν :=
  match y, x with
  | .literal value, .literal value' => literal (Scalar.operate .atan2 value value')
  | _, _ => .atan2 y x

/-- An operation on two operands. -/
def binary : Operation → Expr ν → Expr ν → Expr ν
  | .add => add
  | .sub => sub
  | .mul => mul
  | .div => div
  | .pow => pow
  | .atan2 => atan2

/-- A function of an operand. A literal is folded when the result is finite. -/
def call (function : Elementary) (argument : Expr ν) : Expr ν :=
  match argument with
  | .literal value =>
    if Scalar.isFinite (Scalar.apply function value) then literal (Scalar.apply function value)
    else .call function argument
  | _ => .call function argument

end Simplify

/-- The expression rebuilt from its leaves by the simplifying constructors. -/
def Expr.simplify {ν : Type} [Scalar ν] : Expr ν → Expr ν
  | .literal value => Simplify.literal value
  | .symbol name => .symbol name
  | .neg operand => Simplify.neg operand.simplify
  | .binary operation left right => Simplify.binary operation left.simplify right.simplify
  | .call function argument => Simplify.call function argument.simplify

end KalmanHeader
