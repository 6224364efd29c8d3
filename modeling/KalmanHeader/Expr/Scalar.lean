/-!
# The numbers an expression computes with

Expressions are evaluated, folded and differentiated over any type of numbers
that offers the operations below. The class asks for no laws: what the generator
computes with are doubles, whose operations round, and a statement about exact
arithmetic brings its own instance.
-/

namespace KalmanHeader

/-- The elementary functions of one argument. -/
inductive Elementary where
  | sin | cos | tan | asin | acos | atan | sinh | cosh | tanh | exp | ln | sqrt | abs
  deriving DecidableEq, Repr

namespace Elementary

/-- Every elementary function once, in the order that numbers them. -/
def all : List Elementary :=
  [sin, cos, tan, asin, acos, atan, sinh, cosh, tanh, exp, ln, sqrt, abs]

/-- The name of the function in C, which is also the name it is shown under. -/
def cName : Elementary → String
  | sin => "sin"
  | cos => "cos"
  | tan => "tan"
  | asin => "asin"
  | acos => "acos"
  | atan => "atan"
  | sinh => "sinh"
  | cosh => "cosh"
  | tanh => "tanh"
  | exp => "exp"
  | ln => "log"
  | sqrt => "sqrt"
  | abs => "fabs"

/-- The function that a name in expression text stands for. Besides the name in
C, `ln` and `abs` are understood. -/
def ofName? (name : String) : Option Elementary :=
  if name = "ln" then some ln
  else if name = "abs" then some abs
  else all.find? fun function => function.cName == name

end Elementary

/-- The operations of two operands. -/
inductive Operation where
  | add | sub | mul | div | pow | atan2
  deriving DecidableEq, Repr

/-- The constants and operations of a type of numbers. -/
class Scalar (ν : Type) where
  zero : ν
  one : ν
  two : ν
  /-- The value of a symbol that nothing is known about. -/
  undefined : ν
  negate : ν → ν
  operate : Operation → ν → ν → ν
  apply : Elementary → ν → ν
  /-- Whether two numbers compare equal. It need not be reflexive. -/
  same : ν → ν → Bool
  /-- Whether a number is an ordinary one. -/
  isFinite : ν → Bool

/-- The value of an elementary function on doubles. -/
def Elementary.ofDouble : Elementary → Float → Float
  | sin => Float.sin
  | cos => Float.cos
  | tan => Float.tan
  | asin => Float.asin
  | acos => Float.acos
  | atan => Float.atan
  | sinh => Float.sinh
  | cosh => Float.cosh
  | tanh => Float.tanh
  | exp => Float.exp
  | ln => Float.log
  | sqrt => Float.sqrt
  | abs => Float.abs

/-- The value of an operation on doubles. -/
def Operation.ofDoubles : Operation → Float → Float → Float
  | add => Float.add
  | sub => Float.sub
  | mul => Float.mul
  | div => Float.div
  | pow => Float.pow
  | atan2 => Float.atan2

instance : Scalar Float where
  zero := 0.0
  one := 1.0
  two := 2.0
  undefined := 0.0 / 0.0
  negate := Float.neg
  operate := Operation.ofDoubles
  apply := Elementary.ofDouble
  same := Float.beq
  isFinite := Float.isFinite

end KalmanHeader
