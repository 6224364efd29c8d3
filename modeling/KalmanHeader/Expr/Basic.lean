import KalmanHeader.Expr.Scalar
import KalmanHeader.Text.NameSet

/-!
# Symbolic expressions

An expression is a finite tree over literals and symbols. This module holds the
type, the questions asked about a tree, and its value under an assignment of
the symbols. Nothing here simplifies: every function takes the tree as it is.
-/

namespace KalmanHeader

/-- A symbolic expression over literals of type `ν`. -/
inductive Expr (ν : Type) where
  | literal (value : ν)
  | symbol (name : String)
  | neg (operand : Expr ν)
  | binary (operation : Operation) (left right : Expr ν)
  | call (function : Elementary) (argument : Expr ν)
  deriving DecidableEq, Repr

namespace Expr

variable {ν : Type}

/-- The sum of two expressions. -/
@[match_pattern] abbrev add (left right : Expr ν) : Expr ν := .binary .add left right

/-- The difference of two expressions. -/
@[match_pattern] abbrev sub (left right : Expr ν) : Expr ν := .binary .sub left right

/-- The product of two expressions. -/
@[match_pattern] abbrev mul (left right : Expr ν) : Expr ν := .binary .mul left right

/-- The quotient of two expressions. -/
@[match_pattern] abbrev div (left right : Expr ν) : Expr ν := .binary .div left right

/-- The power of `base` by `exponent`. -/
@[match_pattern] abbrev pow (base exponent : Expr ν) : Expr ν := .binary .pow base exponent

/-- The angle of the point with ordinate `y` and abscissa `x`. -/
@[match_pattern] abbrev atan2 (y x : Expr ν) : Expr ν := .binary .atan2 y x

/-- The literal zero. -/
def zero [Scalar ν] : Expr ν := .literal Scalar.zero

/-- The literal one. -/
def one [Scalar ν] : Expr ν := .literal Scalar.one

/-- The name of an expression that is nothing but a symbol. -/
def symbol? : Expr ν → Option String
  | .symbol name => some name
  | _ => none

/-- The value of an expression that is nothing but a literal. -/
def literal? : Expr ν → Option ν
  | .literal value => some value
  | _ => none

/-- Whether the expression is a literal that compares equal to `value`. -/
def isLiteral [Scalar ν] (value : ν) : Expr ν → Bool
  | .literal found => Scalar.same found value
  | _ => false

/-- Whether the expression is a literal zero of either sign. -/
def isZero [Scalar ν] : Expr ν → Bool :=
  isLiteral Scalar.zero

/-- Whether the expression is the literal one. -/
def isOne [Scalar ν] : Expr ν → Bool :=
  isLiteral Scalar.one

/-- Whether two trees are the same up to literals that compare equal. A tree
with a literal that is not a number is not even the same as itself. -/
def same [Scalar ν] : Expr ν → Expr ν → Bool
  | .literal left, .literal right => Scalar.same left right
  | .symbol left, .symbol right => left == right
  | .neg left, .neg right => left.same right
  | .binary operation left right, .binary operation' left' right' =>
    operation == operation' && left.same left' && right.same right'
  | .call function argument, .call function' argument' =>
    function == function' && argument.same argument'
  | _, _ => false

/-- Whether `name` occurs as a symbol anywhere in the tree. -/
def contains (name : String) : Expr ν → Bool
  | .literal _ => false
  | .symbol found => found == name
  | .neg operand => operand.contains name
  | .binary _ left right => left.contains name || right.contains name
  | .call _ argument => argument.contains name

/-- The symbols of the tree added to `names`. -/
def collectSymbols : Expr ν → NameSet → NameSet
  | .literal _, names => names
  | .symbol found, names => names.insert found
  | .neg operand, names => operand.collectSymbols names
  | .binary _ left right, names => right.collectSymbols (left.collectSymbols names)
  | .call _ argument, names => argument.collectSymbols names

/-- The symbols of the tree. -/
def symbols (expr : Expr ν) : NameSet :=
  expr.collectSymbols .empty

/-- The symbols of all trees of a list. -/
def symbolsOfAll (exprs : List (Expr ν)) : NameSet :=
  exprs.foldl (fun names expr => expr.collectSymbols names) .empty

/-- The value of the tree where each symbol has the value that `assignment`
gives it. -/
def eval [Scalar ν] (assignment : String → ν) : Expr ν → ν
  | .literal value => value
  | .symbol name => assignment name
  | .neg operand => Scalar.negate (operand.eval assignment)
  | .binary operation left right =>
    Scalar.operate operation (left.eval assignment) (right.eval assignment)
  | .call function argument => Scalar.apply function (argument.eval assignment)

end Expr

/-- The assignment that a list of bindings describes. Of two bindings of one
name the later counts, and a name without binding is undefined. -/
def assignmentOf {ν : Type} [Scalar ν] (bindings : List (String × ν)) (name : String) : ν :=
  (bindings.reverse.lookup name).getD Scalar.undefined

end KalmanHeader
