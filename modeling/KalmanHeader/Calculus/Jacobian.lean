import KalmanHeader.Calculus.Derivative
import KalmanHeader.Expr.Grid

/-!
# Jacobian matrices

The Jacobian of some outputs by some inputs has a row for each output and a
column for each input. Any way of differentiating may fill it; the one built on
`Expr.diff` is the default. Inputs have to be symbols.
-/

namespace KalmanHeader

/-- A way of differentiating expressions. -/
structure Differentiator (ν : Type) where
  /-- The derivative of an expression by a symbol. -/
  diff : String → Expr ν → Expr ν
  /-- Brings a derivative into the form in which it is shown. -/
  simplify : Expr ν → Expr ν

/-- Differentiation by the rules of calculus, followed by simplification. -/
def Differentiator.symbolic {ν : Type} [Scalar ν] : Differentiator ν where
  diff := Expr.diff
  simplify := Expr.simplify

/-- An input that is no symbol, and its place among the inputs. -/
structure InvalidTarget (ν : Type) where
  index : Nat
  expr : Expr ν
  deriving DecidableEq, Repr

namespace Jacobian

variable {ν : Type}

/-- The names of inputs that are symbols, where `index` inputs came before. -/
def targetsFrom (index : Nat) : List (Expr ν) → Except (InvalidTarget ν) (List String)
  | [] => .ok []
  | expr :: exprs =>
    match expr.symbol? with
    | none => .error ⟨index, expr⟩
    | some name => (targetsFrom (index + 1) exprs).map (name :: ·)

/-- The names of the inputs, all of which have to be symbols. -/
def targets (inputs : List (Expr ν)) : Except (InvalidTarget ν) (List String) :=
  targetsFrom 0 inputs

/-- An expression that simplifies to zero becomes the literal zero. -/
def canonicalZero [Scalar ν] (expr : Expr ν) : Expr ν :=
  if expr.isZero || expr.simplify.isZero then .zero else expr

/-- The entry for one output and one input. An output without the input is not
differentiated. -/
def entry [Scalar ν] (differentiator : Differentiator ν) (output : Expr ν) (name : String) :
    Expr ν :=
  if output.contains name then
    canonicalZero (differentiator.simplify (differentiator.diff name output))
  else .zero

end Jacobian

variable {ν : Type} [Scalar ν]

/-- The Jacobian of `outputs` by `inputs` for any way of differentiating. -/
def jacobianWith (differentiator : Differentiator ν) (outputs inputs : List (Expr ν)) :
    Except (InvalidTarget ν) (Grid (Expr ν)) :=
  (Jacobian.targets inputs).map fun names =>
    .tabulate outputs names (Jacobian.entry differentiator)

/-- The Jacobian of `outputs` by `inputs`. -/
def jacobian (outputs inputs : List (Expr ν)) : Except (InvalidTarget ν) (Grid (Expr ν)) :=
  jacobianWith .symbolic outputs inputs

end KalmanHeader
