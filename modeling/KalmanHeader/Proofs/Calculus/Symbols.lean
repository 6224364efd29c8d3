import KalmanHeader.Calculus.Derivative

/-!
# No new symbols

Simplifying and differentiating only rearrange what is there: where all symbols of
an expression are allowed, all symbols of the result are.
-/

namespace KalmanHeader

namespace Expr

variable {ν : Type} {allowed : String → Prop} {operand left right argument : Expr ν}
  {operation : Operation} {function : Elementary}

/-- Whether all symbols of an expression are allowed. -/
def SymbolsIn (allowed : String → Prop) (expr : Expr ν) : Prop :=
  ∀ name, expr.contains name → allowed name

/-- A literal has no symbols. -/
theorem symbolsIn_literal (value : ν) : (literal value).SymbolsIn allowed := by
  intro name found
  exact absurd found Bool.false_ne_true

/-- The symbols of an operation are those of its operands. -/
theorem symbolsIn_binary :
    (binary operation left right).SymbolsIn allowed ↔
      left.SymbolsIn allowed ∧ right.SymbolsIn allowed := by
  simp only [SymbolsIn, contains, Bool.or_eq_true, or_imp, forall_and]

/-- The symbols of a call are those of its argument. -/
theorem symbolsIn_call : (call function argument).SymbolsIn allowed ↔ argument.SymbolsIn allowed :=
  Iff.rfl

end Expr

open KalmanHeader.Expr

variable {ν : Type} [Scalar ν] {allowed : String → Prop} {operand left right : Expr ν}

namespace Simplify

/-- A folded literal has no symbols. -/
theorem symbolsIn_folded (value : ν) : (literal value).SymbolsIn allowed := by
  unfold literal
  split
  · exact symbolsIn_literal Scalar.zero
  · exact symbolsIn_literal value

/-- The symbols of an opposite. -/
theorem symbolsIn_opposite (inner : operand.SymbolsIn allowed) :
    (neg operand).SymbolsIn allowed := by
  cases operand with
  | literal value => exact symbolsIn_folded _
  | symbol | neg | binary | call => exact inner

variable (inLeft : left.SymbolsIn allowed) (inRight : right.SymbolsIn allowed)

include inLeft inRight

/-- The symbols of a sum and of a difference where the right operand is no
opposite. -/
theorem symbolsIn_add_and_sub_of_ne_neg (noOpposite : ∀ inner, right ≠ .neg inner) :
    (add left right).SymbolsIn allowed ∧ (sub left right).SymbolsIn allowed := by
  constructor
  · unfold add
    split
    · exact symbolsIn_folded _
    · exact absurd rfl (noOpposite _)
    · split
      · exact inRight
      · split
        · exact inLeft
        · exact symbolsIn_binary.2 ⟨inLeft, inRight⟩
  · unfold sub
    split
    · exact symbolsIn_folded _
    · exact absurd rfl (noOpposite _)
    · split
      · exact inLeft
      · split
        · exact symbolsIn_opposite inRight
        · split
          · exact symbolsIn_literal _
          · exact symbolsIn_binary.2 ⟨inLeft, inRight⟩

/-- The symbols of a sum and of a difference. -/
theorem symbolsIn_add_and_sub :
    (add left right).SymbolsIn allowed ∧ (sub left right).SymbolsIn allowed := by
  induction right with
  | neg operand ih =>
    obtain ⟨sum, difference⟩ := ih inRight
    constructor
    · rw [add]
      split
      · exact inRight
      · exact difference
    · rw [sub]
      split
      · exact inRight
      · split
        · exact symbolsIn_literal _
        · exact sum
  | _ => exact symbolsIn_add_and_sub_of_ne_neg inLeft inRight (by simp)

/-- The symbols of a product where the operands are not both opposites. -/
theorem symbolsIn_mul_of_ne_neg
    (noOpposites : ∀ inner inner', left = .neg inner → right ≠ .neg inner') :
    (mul left right).SymbolsIn allowed := by
  unfold mul
  split
  · exact symbolsIn_folded _
  · exact absurd rfl (noOpposites _ _ rfl)
  · split
    · exact symbolsIn_literal _
    · split
      · exact inRight
      · split
        · exact inLeft
        · split
          · exact symbolsIn_opposite inRight
          · split
            · exact symbolsIn_opposite inLeft
            · exact symbolsIn_binary.2 ⟨inLeft, inRight⟩

/-- The symbols of a product. -/
theorem symbolsIn_mul : (mul left right).SymbolsIn allowed := by
  induction left generalizing right with
  | neg operand ih =>
    cases right with
    | neg operand' =>
      rw [mul]
      exact ih inLeft inRight
    | _ => exact symbolsIn_mul_of_ne_neg inLeft inRight (by simp)
  | _ => exact symbolsIn_mul_of_ne_neg inLeft inRight (by simp)

/-- The symbols of a quotient. -/
theorem symbolsIn_div : (div left right).SymbolsIn allowed := by
  have neutral : (divNeutral left right).SymbolsIn allowed := by
    unfold divNeutral
    split
    · exact symbolsIn_literal _
    · split
      · exact inLeft
      · exact symbolsIn_binary.2 ⟨inLeft, inRight⟩
  unfold div
  split
  · split
    · exact neutral
    · exact symbolsIn_folded _
  · exact neutral

/-- The symbols of a power. -/
theorem symbolsIn_pow : (pow left right).SymbolsIn allowed := by
  have neutral : (powNeutral left right).SymbolsIn allowed := by
    unfold powNeutral
    split
    · exact symbolsIn_literal _
    · split
      · exact inLeft
      · split
        · exact symbolsIn_literal _
        · exact symbolsIn_binary.2 ⟨inLeft, inRight⟩
  unfold pow
  split
  · split
    · exact symbolsIn_folded _
    · exact neutral
  · exact neutral

/-- The symbols of an angle. -/
theorem symbolsIn_atan2 : (atan2 left right).SymbolsIn allowed := by
  unfold atan2
  split
  · exact symbolsIn_folded _
  · exact symbolsIn_binary.2 ⟨inLeft, inRight⟩

/-- The symbols of an operation. -/
theorem symbolsIn_operation (operation : Operation) :
    (binary operation left right).SymbolsIn allowed := by
  cases operation with
  | add => exact (symbolsIn_add_and_sub inLeft inRight).1
  | sub => exact (symbolsIn_add_and_sub inLeft inRight).2
  | mul => exact symbolsIn_mul inLeft inRight
  | div => exact symbolsIn_div inLeft inRight
  | pow => exact symbolsIn_pow inLeft inRight
  | atan2 => exact symbolsIn_atan2 inLeft inRight

omit inLeft inRight

/-- The symbols of a function. -/
theorem symbolsIn_function (function : Elementary) (inner : operand.SymbolsIn allowed) :
    (call function operand).SymbolsIn allowed := by
  unfold call
  split
  · split
    · exact symbolsIn_folded _
    · exact inner
  · exact inner

end Simplify

/-- Simplifying brings no new symbols. -/
theorem Expr.symbolsIn_simplify {expr : Expr ν} (inner : expr.SymbolsIn allowed) :
    expr.simplify.SymbolsIn allowed := by
  induction expr with
  | literal value => exact Simplify.symbolsIn_folded value
  | symbol name => exact inner
  | neg operand ih => exact Simplify.symbolsIn_opposite (ih inner)
  | binary operation left right ihLeft ihRight =>
    obtain ⟨inLeft, inRight⟩ := symbolsIn_binary.1 inner
    exact Simplify.symbolsIn_operation (ihLeft inLeft) (ihRight inRight) operation
  | call function argument ih => exact Simplify.symbolsIn_function function (ih inner)

namespace Derivative

open Simplify

/-- The literal one has no symbols. -/
theorem symbolsIn_one : (.one : Expr ν).SymbolsIn allowed :=
  symbolsIn_literal Scalar.one

/-- The symbols of a square. -/
theorem symbolsIn_square (inner : operand.SymbolsIn allowed) :
    (square operand).SymbolsIn allowed :=
  symbolsIn_pow inner (symbolsIn_literal _)

/-- The symbols of one minus a square. -/
theorem symbolsIn_oneMinusSquare (inner : operand.SymbolsIn allowed) :
    (oneMinusSquare operand).SymbolsIn allowed :=
  (symbolsIn_add_and_sub symbolsIn_one (symbolsIn_square inner)).2

/-- The symbols of the derivative of a function are those of its argument. -/
theorem symbolsIn_ofElementary (function : Elementary) (inner : operand.SymbolsIn allowed) :
    (ofElementary function operand).SymbolsIn allowed := by
  have root : (Expr.call .sqrt (oneMinusSquare operand)).SymbolsIn allowed :=
    symbolsIn_oneMinusSquare inner
  cases function with
  | sin | sinh | cosh | exp => exact inner
  | cos => exact symbolsIn_opposite (symbolsIn_call.2 inner)
  | tan => exact symbolsIn_div symbolsIn_one (symbolsIn_square (symbolsIn_call.2 inner))
  | asin => exact symbolsIn_div symbolsIn_one root
  | acos => exact symbolsIn_opposite (symbolsIn_div symbolsIn_one root)
  | atan =>
    exact symbolsIn_div symbolsIn_one
      (symbolsIn_add_and_sub symbolsIn_one (symbolsIn_square inner)).1
  | tanh =>
    exact (symbolsIn_add_and_sub symbolsIn_one (symbolsIn_square (symbolsIn_call.2 inner))).2
  | ln => exact symbolsIn_div symbolsIn_one inner
  | sqrt =>
    exact symbolsIn_div symbolsIn_one
      (symbolsIn_mul (symbolsIn_literal _) (symbolsIn_call.2 inner))
  | abs => exact symbolsIn_div inner (symbolsIn_call.2 inner)

/-- The symbols of an exponent less one. -/
theorem symbolsIn_predecessor (inner : operand.SymbolsIn allowed) :
    (predecessor operand).SymbolsIn allowed := by
  cases operand with
  | literal value => exact symbolsIn_literal _
  | symbol | neg | binary | call => exact (symbolsIn_add_and_sub inner symbolsIn_one).2

variable {left' right' : Expr ν} (inLeft : left.SymbolsIn allowed)
  (inRight : right.SymbolsIn allowed) (inLeft' : left'.SymbolsIn allowed)
  (inRight' : right'.SymbolsIn allowed)

include inLeft inRight inLeft' inRight'

/-- The symbols of the derivative of a power. -/
theorem symbolsIn_ofPower : (ofPower left right left' right').SymbolsIn allowed := by
  have inLogarithm : (Expr.call .ln left).SymbolsIn allowed := inLeft
  have inQuotient := symbolsIn_div (symbolsIn_mul inRight inLeft') inLeft
  exact symbolsIn_mul (symbolsIn_pow inLeft inRight)
    (symbolsIn_add_and_sub (symbolsIn_mul inRight' inLogarithm) inQuotient).1

/-- The symbols of the derivative of an operation are those of its operands and of
their derivatives. -/
theorem symbolsIn_ofOperation (name : String) (operation : Operation) :
    (ofOperation name operation left right left' right').SymbolsIn allowed := by
  have inLogarithm : (Expr.call .ln left).SymbolsIn allowed := inLeft
  cases operation with
  | add => exact (symbolsIn_add_and_sub inLeft' inRight').1
  | sub => exact (symbolsIn_add_and_sub inLeft' inRight').2
  | mul =>
    exact (symbolsIn_add_and_sub (symbolsIn_mul inLeft' inRight) (symbolsIn_mul inLeft inRight')).1
  | div =>
    simp only [ofOperation]
    split
    · exact symbolsIn_div (symbolsIn_add_and_sub (symbolsIn_mul inLeft' inRight)
        (symbolsIn_mul inLeft inRight')).2 (symbolsIn_square inRight)
    · exact symbolsIn_div inLeft' inRight
  | pow =>
    simp only [ofOperation]
    split
    · split
      · exact symbolsIn_ofPower inLeft inRight inLeft' inRight'
      · exact symbolsIn_mul (symbolsIn_mul (symbolsIn_pow inLeft inRight) inLogarithm) inRight'
    · exact symbolsIn_mul
        (symbolsIn_mul inRight (symbolsIn_pow inLeft (symbolsIn_predecessor inRight))) inLeft'
  | atan2 =>
    exact symbolsIn_div
      (symbolsIn_add_and_sub (symbolsIn_mul inRight inLeft') (symbolsIn_mul inLeft inRight')).2
      (symbolsIn_add_and_sub (symbolsIn_square inRight) (symbolsIn_square inLeft)).1

end Derivative

namespace Expr

/-- Differentiating brings no new symbols. -/
theorem symbolsIn_derivative {expr : Expr ν} (name : String) (inner : expr.SymbolsIn allowed) :
    (expr.derivative name).SymbolsIn allowed := by
  induction expr with
  | literal value =>
    rw [derivative.eq_def]
    split <;> exact symbolsIn_literal _
  | symbol found =>
    rw [derivative.eq_def]
    split <;> exact symbolsIn_literal _
  | neg operand ih =>
    rw [derivative.eq_def]
    split
    · exact Simplify.symbolsIn_opposite (ih inner)
    · exact symbolsIn_literal _
  | binary operation left right ihLeft ihRight =>
    obtain ⟨inLeft, inRight⟩ := symbolsIn_binary.1 inner
    rw [derivative.eq_def]
    split
    · exact Derivative.symbolsIn_ofOperation inLeft inRight (ihLeft inLeft) (ihRight inRight) name
        operation
    · exact symbolsIn_literal _
  | call function argument ih =>
    rw [derivative.eq_def]
    split
    · exact Simplify.symbolsIn_mul (Derivative.symbolsIn_ofElementary function inner) (ih inner)
    · exact symbolsIn_literal _

/-- A partial derivative has no symbols but those of the expression. -/
theorem symbolsIn_diff {expr : Expr ν} (name : String) (inner : expr.SymbolsIn allowed) :
    (expr.diff name).SymbolsIn allowed :=
  symbolsIn_simplify (symbolsIn_derivative name inner)

end Expr

end KalmanHeader
