import KalmanHeader.Expr.Basic

/-!
# Replacing symbols

A visitor looks at the symbols of an expression from left to right and offers
replacements. It may keep a state and it may fail, since it runs in any monad;
what it puts in place of a symbol is not visited again. `mapSymbols` is the same
for a visitor that does neither.
-/

namespace KalmanHeader.Expr

variable {ν : Type}

/-- The expression with each symbol replaced by what `visit` offers for it, or
kept where it offers nothing. -/
def mapSymbolsM {m : Type → Type} [Monad m] (visit : String → m (Option (Expr ν))) :
    Expr ν → m (Expr ν)
  | .literal value => pure (.literal value)
  | .symbol name => do
    let replacement ← visit name
    return replacement.getD (.symbol name)
  | .neg operand => do
    let operand' ← operand.mapSymbolsM visit
    return .neg operand'
  | .binary operation left right => do
    let left' ← left.mapSymbolsM visit
    let right' ← right.mapSymbolsM visit
    return .binary operation left' right'
  | .call function argument => do
    let argument' ← argument.mapSymbolsM visit
    return .call function argument'

/-- The expression with each symbol replaced by what `replacement?` offers for
it, or kept where it offers nothing. -/
def mapSymbols (replacement? : String → Option (Expr ν)) : Expr ν → Expr ν
  | .literal value => .literal value
  | .symbol name => (replacement? name).getD (.symbol name)
  | .neg operand => .neg (operand.mapSymbols replacement?)
  | .binary operation left right =>
    .binary operation (left.mapSymbols replacement?) (right.mapSymbols replacement?)
  | .call function argument => .call function (argument.mapSymbols replacement?)

/-- A visitor that writes down each symbol it is shown before it decides. -/
def recording {ε : Type} (decide : String → Except ε (Option (Expr ν))) (name : String) :
    ExceptT ε (StateM (List String)) (Option (Expr ν)) := do
  modify (· ++ [name])
  ExceptT.mk (pure (decide name))

end KalmanHeader.Expr
