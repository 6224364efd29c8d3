import KalmanHeader.Proofs.Calculus.Symbols
import KalmanHeader.Proofs.Expr.Parts
import KalmanHeader.Proofs.Expr.SymbolSets
import KalmanHeader.Proofs.Expr.Visits

/-!
# What the calculus does not add

A simplifying constructor gives no more nodes than the plain node that it stands for,
whatever its operands are: where it puts a sign in front of an operand, the other operand
goes. So a simplified expression is no larger than the expression. A derivative may well be
larger, but as simplifying it brings no symbols that were not there.
-/

namespace KalmanHeader

namespace Expr

variable {ν : Type} {operand left right argument : Expr ν} {operation : Operation}
  {function : Elementary}

/-- How many nodes an expression has. -/
def nodeCount (expr : Expr ν) : Nat :=
  expr.parts.length

/-- A literal is one node. -/
@[simp]
theorem nodeCount_literal (value : ν) : (literal value).nodeCount = 1 :=
  rfl

/-- A symbol is one node. -/
@[simp]
theorem nodeCount_symbol (name : String) : (symbol name : Expr ν).nodeCount = 1 :=
  rfl

/-- A negation is a node above its operand. -/
@[simp]
theorem nodeCount_neg : (neg operand).nodeCount = operand.nodeCount + 1 :=
  rfl

/-- An operation is a node above its operands. -/
@[simp]
theorem nodeCount_binary :
    (binary operation left right).nodeCount = left.nodeCount + right.nodeCount + 1 := by
  simp only [nodeCount, parts, List.length_cons, List.length_append]

/-- A call is a node above its argument. -/
@[simp]
theorem nodeCount_call : (call function argument).nodeCount = argument.nodeCount + 1 :=
  rfl

/-- An expression whose symbols all occur in another one has no symbols besides those of
that. -/
theorem mem_symbols_of_symbolsIn {expr other : Expr ν}
    (inner : other.SymbolsIn fun name => expr.contains name) :
    ∀ name ∈ other.symbols, name ∈ expr.symbols :=
  fun name member => mem_symbols.2 (inner name (mem_symbols.1 member))

end Expr

open KalmanHeader.Expr

namespace Simplify

variable {ν : Type} [Scalar ν] {left right : Expr ν}

/-- A folded literal is one node. -/
@[simp]
theorem nodeCount_folded (value : ν) : (literal value).nodeCount = 1 := by
  unfold literal
  split <;> rfl

/-- An opposite is at most one node larger than its operand. -/
theorem nodeCount_opposite_le (operand : Expr ν) :
    (neg operand).nodeCount ≤ operand.nodeCount + 1 := by
  cases operand with
  | literal value => simp [neg]
  | neg inner =>
    rw [neg, nodeCount_neg]
    omega
  | symbol | binary | call => exact Nat.le_refl _

/-- The size of a sum and of a difference where the right operand is no opposite. -/
theorem nodeCount_add_and_sub_le_of_ne_neg (noOpposite : ∀ inner, right ≠ .neg inner) :
    (add left right).nodeCount ≤ left.nodeCount + right.nodeCount + 1 ∧
      (sub left right).nodeCount ≤ left.nodeCount + right.nodeCount + 1 := by
  constructor
  · unfold add
    split
    · simp
    · exact absurd rfl (noOpposite _)
    · split
      · omega
      · split
        · omega
        · exact Nat.le_of_eq nodeCount_binary
  · unfold sub
    split
    · simp
    · exact absurd rfl (noOpposite _)
    · split
      · omega
      · split
        · have opposite := nodeCount_opposite_le right
          omega
        · split
          · simp [zero]
          · exact Nat.le_of_eq nodeCount_binary

/-- The size of a sum and of a difference. -/
theorem nodeCount_add_and_sub_le (left right : Expr ν) :
    (add left right).nodeCount ≤ left.nodeCount + right.nodeCount + 1 ∧
      (sub left right).nodeCount ≤ left.nodeCount + right.nodeCount + 1 := by
  -- Each of the two takes a sign off the right operand and goes over to the other.
  induction right with
  | neg operand ih =>
    obtain ⟨sum, difference⟩ := ih
    rw [nodeCount_neg]
    constructor
    · rw [add]
      split
      · rw [nodeCount_neg]
        omega
      · omega
    · rw [sub]
      split
      · omega
      · split
        · simp [zero]
        · omega
  | literal | symbol | binary | call => exact nodeCount_add_and_sub_le_of_ne_neg (by simp)

/-- The size of a product where the operands are not both opposites. -/
theorem nodeCount_mul_le_of_ne_neg
    (noOpposites : ∀ inner inner', left = .neg inner → right ≠ .neg inner') :
    (mul left right).nodeCount ≤ left.nodeCount + right.nodeCount + 1 := by
  have opposite := nodeCount_opposite_le left
  have opposite' := nodeCount_opposite_le right
  unfold mul
  split
  · simp
  · exact absurd rfl (noOpposites _ _ rfl)
  · split
    · simp [zero]
    · split
      · omega
      · split
        · omega
        · split
          · omega
          · split
            · omega
            · exact Nat.le_of_eq nodeCount_binary

/-- The size of a product. -/
theorem nodeCount_mul_le (left right : Expr ν) :
    (mul left right).nodeCount ≤ left.nodeCount + right.nodeCount + 1 := by
  induction left generalizing right with
  | neg operand ih =>
    cases right with
    | neg operand' =>
      have inner := ih operand'
      rw [mul, nodeCount_neg, nodeCount_neg]
      omega
    | literal | symbol | binary | call => exact nodeCount_mul_le_of_ne_neg (by simp)
  | literal | symbol | binary | call => exact nodeCount_mul_le_of_ne_neg (by simp)

/-- The size of a quotient. -/
theorem nodeCount_div_le (left right : Expr ν) :
    (div left right).nodeCount ≤ left.nodeCount + right.nodeCount + 1 := by
  have neutral : (divNeutral left right).nodeCount ≤ left.nodeCount + right.nodeCount + 1 := by
    unfold divNeutral
    split
    · simp [zero]
    · split
      · omega
      · exact Nat.le_of_eq nodeCount_binary
  unfold div
  split
  · split
    · exact neutral
    · simp
  · exact neutral

/-- The size of a power. -/
theorem nodeCount_pow_le (base exponent : Expr ν) :
    (pow base exponent).nodeCount ≤ base.nodeCount + exponent.nodeCount + 1 := by
  have neutral : (powNeutral base exponent).nodeCount ≤
      base.nodeCount + exponent.nodeCount + 1 := by
    unfold powNeutral
    split
    · simp [one]
    · split
      · omega
      · split
        · simp [one]
        · exact Nat.le_of_eq nodeCount_binary
  unfold pow
  split
  · split
    · simp
    · exact neutral
  · exact neutral

/-- The size of an angle. -/
theorem nodeCount_atan2_le (y x : Expr ν) :
    (atan2 y x).nodeCount ≤ y.nodeCount + x.nodeCount + 1 := by
  unfold atan2
  split
  · simp
  · exact Nat.le_of_eq nodeCount_binary

/-- An operation is no larger than its plain node. -/
theorem nodeCount_operation_le (operation : Operation) (left right : Expr ν) :
    (binary operation left right).nodeCount ≤ (Expr.binary operation left right).nodeCount := by
  rw [nodeCount_binary]
  cases operation with
  | add => exact (nodeCount_add_and_sub_le left right).1
  | sub => exact (nodeCount_add_and_sub_le left right).2
  | mul => exact nodeCount_mul_le left right
  | div => exact nodeCount_div_le left right
  | pow => exact nodeCount_pow_le left right
  | atan2 => exact nodeCount_atan2_le left right

/-- A function of an operand is no larger than its plain node. -/
theorem nodeCount_function_le (function : Elementary) (argument : Expr ν) :
    (call function argument).nodeCount ≤ (Expr.call function argument).nodeCount := by
  unfold call
  split
  · split
    · simp
    · exact Nat.le_refl _
  · exact Nat.le_refl _

end Simplify

namespace Expr

variable {ν : Type} [Scalar ν]

/-- A simplified expression is no larger than the expression. -/
theorem nodeCount_simplified_le (expr : Expr ν) : expr.simplify.nodeCount ≤ expr.nodeCount := by
  induction expr with
  | literal value => exact Nat.le_of_eq (Simplify.nodeCount_folded value)
  | symbol name => exact Nat.le_refl _
  | neg operand ih =>
    calc (Simplify.neg operand.simplify).nodeCount
      _ ≤ operand.simplify.nodeCount + 1 := Simplify.nodeCount_opposite_le _
      _ ≤ operand.nodeCount + 1 := Nat.succ_le_succ ih
  | binary operation left right ihLeft ihRight =>
    calc (Simplify.binary operation left.simplify right.simplify).nodeCount
      _ ≤ (binary operation left.simplify right.simplify).nodeCount :=
        Simplify.nodeCount_operation_le operation _ _
      _ ≤ (binary operation left right).nodeCount := by
        rw [nodeCount_binary, nodeCount_binary]
        omega
  | call function argument ih =>
    calc (Simplify.call function argument.simplify).nodeCount
      _ ≤ argument.simplify.nodeCount + 1 := Simplify.nodeCount_function_le function _
      _ ≤ argument.nodeCount + 1 := Nat.succ_le_succ ih

/-- Neither simplifying an expression nor any of the constructors that it is done with makes
more nodes of what it is given than there are in the plain tree. The constructors are total
functions of whatever operands, whether these are simplified or not. -/
theorem nodeCount_simplify_le :
    (∀ expr : Expr ν, expr.simplify.nodeCount ≤ expr.nodeCount) ∧
      (∀ value : ν, (Simplify.literal value).nodeCount ≤ (literal value).nodeCount) ∧
      (∀ operand : Expr ν, (Simplify.neg operand).nodeCount ≤ (neg operand).nodeCount) ∧
      (∀ operation (left right : Expr ν), (Simplify.binary operation left right).nodeCount ≤
        (binary operation left right).nodeCount) ∧
      ∀ function (argument : Expr ν),
        (Simplify.call function argument).nodeCount ≤ (call function argument).nodeCount := by
  refine ⟨nodeCount_simplified_le, fun value => ?_, Simplify.nodeCount_opposite_le,
    Simplify.nodeCount_operation_le, Simplify.nodeCount_function_le⟩
  exact Nat.le_of_eq (Simplify.nodeCount_folded value)

/-- Neither a simplified expression nor a derivative by any symbol has symbols that the
expression does not have. The symbols of an expression are those that it contains, which are
those that stand at its leaves. -/
theorem symbols_of_simplify_and_diff (expr : Expr ν) (target : String) :
    (∀ name ∈ expr.simplify.symbols, name ∈ expr.symbols) ∧
      (∀ name ∈ (expr.diff target).symbols, name ∈ expr.symbols) ∧
      ∀ name, (expr.contains name = true ↔ name ∈ expr.symbols) ∧
        (name ∈ expr.symbols ↔ name ∈ expr.leaves) := by
  have own : expr.SymbolsIn fun name => expr.contains name := fun _ found => found
  refine ⟨mem_symbols_of_symbolsIn (symbolsIn_simplify own),
    mem_symbols_of_symbolsIn (symbolsIn_diff target own), fun name => ⟨mem_symbols.symm, ?_⟩⟩
  exact mem_symbols.trans mem_leaves.symm

/-- A product with zero, of which nothing is left, less a sine. -/
def vanishing : Expr Float :=
  .sub (.mul (.symbol "x") (.literal 0)) (.call .sin (.mul (.symbol "y") (.symbol "y")))

/-- The symbol of the product goes when it is simplified, and that of the sine stays in the
derivative. -/
theorem symbols_of_simplify_and_diff_of_vanishing :
    "x" ∈ vanishing.symbols ∧ "x" ∉ vanishing.simplify.symbols ∧
      "y" ∈ (vanishing.diff "y").symbols ∧ "y" ∈ vanishing.symbols := by
  obtain ⟨simplified, derived, occurs⟩ := symbols_of_simplify_and_diff vanishing "y"
  have stays : "y" ∈ (vanishing.diff "y").symbols := by decide
  exact ⟨(occurs "x").1.1 (by decide), by decide, stays, derived "y" stays⟩

end Expr

end KalmanHeader
