import Mathlib.Logic.Function.Basic
import KalmanHeader.Proofs.Calculus.Symbols

/-!
# Renamed symbols

Simplifying and differentiating compare symbols, but only with each other. Where no
two symbols become the same it makes no difference whether they are renamed before or
after. The spelling of a name, and its place among the others, are never looked at.
-/

namespace KalmanHeader

namespace Expr

variable {ν : Type} {relabel relabel' : String → String}

/-- The expression with each symbol renamed. -/
def rename (relabel : String → String) : Expr ν → Expr ν
  | .literal value => .literal value
  | .symbol name => .symbol (relabel name)
  | .neg operand => .neg (operand.rename relabel)
  | .binary operation left right =>
    .binary operation (left.rename relabel) (right.rename relabel)
  | .call function argument => .call function (argument.rename relabel)

/-- Renaming only depends on the symbols that occur. -/
theorem rename_congr {expr : Expr ν}
    (same : expr.SymbolsIn fun name => relabel name = relabel' name) :
    expr.rename relabel = expr.rename relabel' := by
  induction expr with
  | literal value => rfl
  | symbol name => exact congrArg Expr.symbol (same name (beq_self_eq_true name))
  | neg operand ih => exact congrArg Expr.neg (ih same)
  | binary operation left right ihLeft ihRight =>
    obtain ⟨sameLeft, sameRight⟩ := symbolsIn_binary.1 same
    rw [rename, rename, ihLeft sameLeft, ihRight sameRight]
  | call function argument ih => exact congrArg (Expr.call function) (ih same)

/-- A symbol of a renamed expression is a renamed symbol. -/
theorem exists_of_contains_rename {expr : Expr ν} {name : String}
    (found : (expr.rename relabel).contains name) :
    ∃ source, relabel source = name ∧ expr.contains source := by
  induction expr with
  | literal value => contradiction
  | symbol source => exact ⟨source, beq_iff_eq.1 found, beq_self_eq_true source⟩
  | neg operand ih | call function operand ih => exact ih found
  | binary operation left right ihLeft ihRight =>
    simp only [contains, Bool.or_eq_true]
    rcases Bool.or_eq_true_iff.1 found with found | found
    · exact (ihLeft found).imp fun _ => .imp_right .inl
    · exact (ihRight found).imp fun _ => .imp_right .inr

variable (injective : Function.Injective relabel)

include injective

/-- A renamed symbol occurs in a renamed expression where it did before. -/
theorem contains_rename (expr : Expr ν) (name : String) :
    (expr.rename relabel).contains (relabel name) = expr.contains name := by
  induction expr with
  | literal value => rfl
  | symbol found => exact injective.beq_eq
  | neg operand ih | call function operand ih => exact ih
  | binary operation left right ihLeft ihRight => rw [rename, contains, contains, ihLeft, ihRight]

/-- Renamed expressions are the same where they were before. -/
theorem same_rename [Scalar ν] (left right : Expr ν) :
    (left.rename relabel).same (right.rename relabel) = left.same right := by
  induction left generalizing right with
  | literal value => cases right <;> rfl
  | symbol name =>
    cases right with
    | symbol other => exact injective.beq_eq
    | literal | neg | binary | call => rfl
  | neg operand ih =>
    cases right with
    | neg operand' => exact ih operand'
    | literal | symbol | binary | call => rfl
  | binary operation left right' ihLeft ihRight =>
    cases right with
    | binary operation' => rw [rename, rename, same, same, ihLeft, ihRight]
    | literal | symbol | neg | call => rfl
  | call function argument ih =>
    cases right with
    | call function' => rw [rename, rename, same, same, ih]
    | literal | symbol | neg | binary => rfl

end Expr

open KalmanHeader.Expr

variable {ν : Type} [Scalar ν] {relabel : String → String}

namespace Simplify

/-- Renaming makes no literal and takes none away. -/
theorem isLiteral_rename (value : ν) (expr : Expr ν) :
    (expr.rename relabel).isLiteral value = expr.isLiteral value := by
  cases expr <;> rfl

/-- A folded literal has nothing to rename. -/
theorem rename_folded (value : ν) : (literal value).rename relabel = literal value := by
  unfold literal
  split <;> rfl

/-- An opposite renamed. -/
theorem rename_opposite (operand : Expr ν) :
    (neg operand).rename relabel = neg (operand.rename relabel) := by
  cases operand with
  | literal value => exact rename_folded _
  | symbol | neg | binary | call => rfl

section Choices

omit [Scalar ν]

variable {left right first second first' second' : Expr ν} {condition condition' : Bool}

/-- A choice renamed, where the condition does not depend on the names. -/
theorem rename_choice (same : condition' = condition) (renamed : first.rename relabel = first')
    (renamed' : second.rename relabel = second') :
    (if condition then first else second).rename relabel =
      if condition' then first' else second' := by
  rw [same]
  split
  · exact renamed
  · exact renamed'

/-- Operands are folded after renaming only where they were before. -/
theorem unfolded_rename
    (unfolded : ∀ value value', left = .literal value → right = .literal value' → False)
    (value value' : ν) (isLiteral : left.rename relabel = .literal value)
    (isLiteral' : right.rename relabel = .literal value') : False := by
  cases left with
  | literal =>
    cases right with
    | literal => exact unfolded _ _ rfl rfl
    | symbol | neg | binary | call => contradiction
  | symbol | neg | binary | call => contradiction

/-- An opposite was one before renaming. -/
theorem exists_of_rename_eq_neg {expr operand' : Expr ν}
    (opposite : expr.rename relabel = .neg operand') : ∃ operand, expr = .neg operand := by
  cases expr with
  | neg operand => exact ⟨operand, rfl⟩
  | literal | symbol | binary | call => contradiction

end Choices

variable (left right : Expr ν)

/-- A quotient renamed. -/
theorem rename_div :
    (div left right).rename relabel = div (left.rename relabel) (right.rename relabel) := by
  have neutral : (divNeutral left right).rename relabel =
      divNeutral (left.rename relabel) (right.rename relabel) :=
    rename_choice (isLiteral_rename _ left) rfl (rename_choice (isLiteral_rename _ right) rfl rfl)
  cases left with
  | literal =>
    cases right with
    | literal => exact rename_choice rfl neutral (rename_folded _)
    | symbol | neg | binary | call => exact neutral
  | symbol | neg | binary | call => exact neutral

/-- A power renamed. -/
theorem rename_pow :
    (pow left right).rename relabel = pow (left.rename relabel) (right.rename relabel) := by
  have neutral : (powNeutral left right).rename relabel =
      powNeutral (left.rename relabel) (right.rename relabel) :=
    rename_choice (isLiteral_rename _ right) rfl (rename_choice (isLiteral_rename _ right) rfl
      (rename_choice (isLiteral_rename _ left) rfl rfl))
  cases left with
  | literal =>
    cases right with
    | literal => exact rename_choice rfl (rename_folded _) neutral
    | symbol | neg | binary | call => exact neutral
  | symbol | neg | binary | call => exact neutral

/-- An angle renamed. -/
theorem rename_atan2 :
    (atan2 left right).rename relabel = atan2 (left.rename relabel) (right.rename relabel) := by
  cases left with
  | literal =>
    cases right with
    | literal => exact rename_folded _
    | symbol | neg | binary | call => rfl
  | symbol | neg | binary | call => rfl

/-- A function renamed. -/
theorem rename_function (function : Elementary) (argument : Expr ν) :
    (call function argument).rename relabel = call function (argument.rename relabel) := by
  cases argument with
  | literal => exact rename_choice rfl (rename_folded _) rfl
  | symbol | neg | binary | call => rfl

variable {left right}

/-- A product renamed where the operands are not both opposites. -/
theorem rename_mul_of_ne_neg
    (noOpposites : ∀ inner inner', left = .neg inner → right = .neg inner' → False) :
    (mul left right).rename relabel = mul (left.rename relabel) (right.rename relabel) := by
  by_cases literals : ∃ value value', left = .literal value ∧ right = .literal value'
  · obtain ⟨value, value', rfl, rfl⟩ := literals
    exact rename_folded _
  · have unfolded : ∀ value value', left = .literal value → right = .literal value' → False :=
      fun value value' isLiteral isLiteral' => literals ⟨value, value', isLiteral, isLiteral'⟩
    have noOpposites' : ∀ inner inner', left.rename relabel = .neg inner →
        right.rename relabel = .neg inner' → False := by
      intro inner inner' opposite opposite'
      obtain ⟨_, found⟩ := exists_of_rename_eq_neg opposite
      obtain ⟨_, found'⟩ := exists_of_rename_eq_neg opposite'
      exact noOpposites _ _ found found'
    rw [mul.eq_3 _ _ unfolded noOpposites, mul.eq_3 _ _ (unfolded_rename unfolded) noOpposites']
    refine rename_choice ?_ rfl (rename_choice (isLiteral_rename _ left) rfl
      (rename_choice (isLiteral_rename _ right) rfl
      (rename_choice (isLiteral_rename _ left) (rename_opposite right)
      (rename_choice (isLiteral_rename _ right) (rename_opposite left) rfl))))
    exact congrArg₂ or (isLiteral_rename _ left) (isLiteral_rename _ right)

/-- A product renamed. -/
theorem rename_mul (left right : Expr ν) :
    (mul left right).rename relabel = mul (left.rename relabel) (right.rename relabel) := by
  induction left generalizing right with
  | neg operand ih =>
    cases right with
    | neg operand' =>
      rw [mul, rename, rename, mul]
      exact ih operand'
    | _ => exact rename_mul_of_ne_neg (by simp)
  | _ => exact rename_mul_of_ne_neg (by simp)

variable (injective : Function.Injective relabel)

include injective

/-- A sum and a difference renamed where the right operand is no opposite. -/
theorem rename_add_and_sub_of_ne_neg (noOpposite : ∀ inner, right = .neg inner → False) :
    (add left right).rename relabel = add (left.rename relabel) (right.rename relabel) ∧
      (sub left right).rename relabel = sub (left.rename relabel) (right.rename relabel) := by
  by_cases literals : ∃ value value', left = .literal value ∧ right = .literal value'
  · obtain ⟨value, value', rfl, rfl⟩ := literals
    exact ⟨rename_folded _, rename_folded _⟩
  · have unfolded : ∀ value value', left = .literal value → right = .literal value' → False :=
      fun value value' isLiteral isLiteral' => literals ⟨value, value', isLiteral, isLiteral'⟩
    have unfolded' := @unfolded_rename _ relabel _ _ unfolded
    have noOpposite' : ∀ inner, right.rename relabel = .neg inner → False := by
      intro inner opposite
      obtain ⟨_, found⟩ := exists_of_rename_eq_neg opposite
      exact noOpposite _ found
    rw [add.eq_3 _ _ noOpposite unfolded, sub.eq_3 _ _ noOpposite unfolded,
      add.eq_3 _ _ noOpposite' unfolded', sub.eq_3 _ _ noOpposite' unfolded']
    constructor
    · exact rename_choice (isLiteral_rename _ left) rfl
        (rename_choice (isLiteral_rename _ right) rfl rfl)
    · exact rename_choice (isLiteral_rename _ right) rfl
        (rename_choice (isLiteral_rename _ left) (rename_opposite right)
        (rename_choice (same_rename injective left right) rfl rfl))

/-- A sum and a difference renamed. -/
theorem rename_add_and_sub (left right : Expr ν) :
    (add left right).rename relabel = add (left.rename relabel) (right.rename relabel) ∧
      (sub left right).rename relabel = sub (left.rename relabel) (right.rename relabel) := by
  induction right with
  | neg operand ih =>
    obtain ⟨sum, difference⟩ := ih
    rw [add, sub, rename, add, sub]
    exact ⟨rename_choice (isLiteral_rename _ left) rfl difference,
      rename_choice (isLiteral_rename _ left) rfl
        (rename_choice (same_rename injective left (.neg operand)) rfl sum)⟩
  | _ => exact rename_add_and_sub_of_ne_neg injective (by simp)

/-- A sum renamed. -/
theorem rename_sum (left right : Expr ν) :
    (add left right).rename relabel = add (left.rename relabel) (right.rename relabel) :=
  (rename_add_and_sub injective left right).1

/-- A difference renamed. -/
theorem rename_difference (left right : Expr ν) :
    (sub left right).rename relabel = sub (left.rename relabel) (right.rename relabel) :=
  (rename_add_and_sub injective left right).2

/-- An operation renamed. -/
theorem rename_operation (operation : Operation) (left right : Expr ν) :
    (binary operation left right).rename relabel =
      binary operation (left.rename relabel) (right.rename relabel) := by
  cases operation with
  | add => exact rename_sum injective left right
  | sub => exact rename_difference injective left right
  | mul => exact rename_mul left right
  | div => exact rename_div left right
  | pow => exact rename_pow left right
  | atan2 => exact rename_atan2 left right

end Simplify

section Calculus

variable (injective : Function.Injective relabel)

include injective

/-- A simplified expression renamed. -/
theorem Expr.rename_simplify (expr : Expr ν) :
    expr.simplify.rename relabel = (expr.rename relabel).simplify := by
  induction expr with
  | literal value => exact Simplify.rename_folded value
  | symbol name => rfl
  | neg operand ih => rw [simplify, Simplify.rename_opposite, rename, simplify, ih]
  | binary operation left right ihLeft ihRight =>
    rw [simplify, Simplify.rename_operation injective, rename, simplify, ihLeft, ihRight]
  | call function argument ih =>
    rw [simplify, Simplify.rename_function, rename, simplify, ih]

namespace Derivative

open Simplify

/-- The derivative of a function renamed. -/
theorem rename_ofElementary (function : Elementary) (argument : Expr ν) :
    (ofElementary function argument).rename relabel =
      ofElementary function (argument.rename relabel) := by
  cases function <;>
    simp only [ofElementary, oneMinusSquare, square, Expr.one, rename, rename_opposite, rename_div,
      rename_mul, rename_pow, rename_sum injective, rename_difference injective]

/-- An exponent less one renamed. -/
theorem rename_predecessor (exponent : Expr ν) :
    (predecessor exponent).rename relabel = predecessor (exponent.rename relabel) := by
  cases exponent with
  | literal value => rfl
  | symbol | neg | binary | call =>
    simp only [rename, predecessor]
    exact rename_difference injective _ one

/-- The derivative of an operation renamed. -/
theorem rename_ofOperation (name : String) (operation : Operation)
    (left right left' right' : Expr ν) :
    (ofOperation name operation left right left' right').rename relabel =
      ofOperation (relabel name) operation (left.rename relabel) (right.rename relabel)
        (left'.rename relabel) (right'.rename relabel) := by
  have contained := @contains_rename ν relabel injective
  cases operation with
  | add => exact rename_sum injective left' right'
  | sub => exact rename_difference injective left' right'
  | mul => simp only [ofOperation, rename_sum injective, rename_mul]
  | atan2 =>
    simp only [ofOperation, square, rename, rename_div, rename_mul, rename_pow,
      rename_sum injective, rename_difference injective]
  | div =>
    refine rename_choice (contained right name) ?_ (rename_div left' right)
    simp only [square, rename, rename_div, rename_mul, rename_pow, rename_difference injective]
  | pow =>
    refine rename_choice (contained right name) (rename_choice (contained left name) ?_ ?_) ?_
    · simp only [ofPower, rename, rename_div, rename_mul, rename_pow, rename_sum injective]
    · simp only [ofConstantBase, rename, rename_mul, rename_pow]
    · simp only [ofConstantExponent, rename_mul, rename_pow, rename_predecessor injective]

end Derivative

namespace Expr

open Simplify (rename_choice)

/-- A derivative renamed is one by a renamed symbol. -/
theorem rename_derivative (name : String) (expr : Expr ν) :
    (expr.derivative name).rename relabel = (expr.rename relabel).derivative (relabel name) := by
  have contained := @contains_rename ν relabel injective
  induction expr with
  | literal value => rfl
  | symbol found =>
    rw [derivative.eq_def, derivative.eq_def (relabel name)]
    exact rename_choice (contained _ name) rfl rfl
  | neg operand ih =>
    rw [derivative.eq_def, derivative.eq_def (relabel name)]
    refine rename_choice (contained _ name) ?_ rfl
    rw [Simplify.rename_opposite, ih]
    rfl
  | binary operation left right ihLeft ihRight =>
    rw [derivative.eq_def, derivative.eq_def (relabel name)]
    refine rename_choice (contained _ name) ?_ rfl
    rw [Derivative.rename_ofOperation injective, ihLeft, ihRight]
    rfl
  | call function argument ih =>
    rw [derivative.eq_def, derivative.eq_def (relabel name)]
    refine rename_choice (contained _ name) ?_ rfl
    rw [Simplify.rename_mul, Derivative.rename_ofElementary injective, ih]
    rfl

/-- A partial derivative renamed is one by a renamed symbol. -/
theorem rename_diff (name : String) (expr : Expr ν) :
    (expr.diff name).rename relabel = (expr.rename relabel).diff (relabel name) := by
  rw [diff, diff, rename_simplify injective, rename_derivative injective]

end Expr

end Calculus

end KalmanHeader
