import KalmanHeader.Proofs.Calculus.Exact

/-!
# Simplification keeps the value

Each simplifying constructor gives an expression with the value of the plain node
that it stands for, wherever the plain node has one. Simplifying rebuilds an
expression with these constructors, so it keeps the value as well, and it brings
in no part without a value.
-/

namespace KalmanHeader

namespace Simplify

variable {assignment : String → Exact}

/-- The literal of a number has its value. -/
theorem eval_literal (value : Exact) : (literal value).eval assignment = value := by
  unfold literal
  split
  · rename_i zero
    exact (Exact.same_eq_true_iff.1 zero).2.symm
  · rfl

variable {left right operand : Expr Exact} {x y : ℝ}

/-- An expression that counts as a literal has its value and no other. -/
theorem eq_of_isLiteral {number : ℝ} (found : operand.isLiteral (some number) = true)
    (value : operand.eval assignment = some x) : x = number := by
  rw [Expr.isLiteral_eq_true_iff.1 found] at value
  exact (Option.some.inj value).symm

/-- The opposite of an operand has the opposite value. -/
theorem eval_neg (value : operand.eval assignment = some x) :
    (neg operand).eval assignment = some (-x) := by
  cases operand with
  | literal number =>
    rw [neg, eval_literal]
    exact congrArg (Option.map (-·)) value
  | neg inner =>
    obtain ⟨z, innerValue, rfl⟩ := Expr.eval_neg_eq_some_iff.1 value
    rw [neg, innerValue, neg_neg]
  | _ => exact congrArg (Option.map (-·)) value

/-- The plain node of an operation, where the operation is defined. -/
theorem eval_plain (operation : Operation) (leftValue : left.eval assignment = some x)
    (rightValue : right.eval assignment = some y) (isDefined : operation.Defined x y) :
    (Expr.binary operation left right).eval assignment = some (operation.value x y) :=
  Expr.eval_binary_eq_some_iff.2 ⟨x, y, leftValue, rightValue, isDefined, rfl⟩

/-- Two literals folded, where the operation is defined. -/
theorem eval_folded (operation : Operation) {number number' : Exact}
    (leftValue : (Expr.literal number).eval assignment = some x)
    (rightValue : (Expr.literal number').eval assignment = some y)
    (isDefined : operation.Defined x y) :
    (literal (Scalar.operate operation number number')).eval assignment =
      some (operation.value x y) := by
  rw [eval_literal]
  exact eval_plain operation leftValue rightValue isDefined

/-- The sum with a right operand that is no opposite. -/
theorem eval_add_of_ne_neg (noOpposite : ∀ inner, right ≠ .neg inner)
    (leftValue : left.eval assignment = some x) (rightValue : right.eval assignment = some y) :
    (add left right).eval assignment = some (x + y) := by
  unfold add
  split
  · exact eval_folded .add leftValue rightValue trivial
  · exact absurd rfl (noOpposite _)
  · split
    · rename_i zero
      rw [rightValue, eq_of_isLiteral zero leftValue, zero_add]
    · split
      · rename_i zero
        rw [leftValue, eq_of_isLiteral zero rightValue, add_zero]
      · exact eval_plain .add leftValue rightValue trivial

/-- The difference with a right operand that is no opposite. -/
theorem eval_sub_of_ne_neg (noOpposite : ∀ inner, right ≠ .neg inner)
    (leftValue : left.eval assignment = some x) (rightValue : right.eval assignment = some y) :
    (sub left right).eval assignment = some (x - y) := by
  unfold sub
  split
  · exact eval_folded .sub leftValue rightValue trivial
  · exact absurd rfl (noOpposite _)
  · split
    · rename_i zero
      rw [leftValue, eq_of_isLiteral zero rightValue, sub_zero]
    · split
      · rename_i zero
        rw [eval_neg rightValue, eq_of_isLiteral zero leftValue, zero_sub]
      · split
        · rename_i same
          rw [Expr.eq_of_same same, rightValue] at leftValue
          rw [Option.some.inj leftValue, sub_self]
          rfl
        · exact eval_plain .sub leftValue rightValue trivial

/-- Sums and differences have the values of the plain nodes. They are taken
together since an opposite on the right turns one into the other. -/
theorem eval_add_and_sub (leftValue : left.eval assignment = some x)
    (rightValue : right.eval assignment = some y) :
    (add left right).eval assignment = some (x + y) ∧
      (sub left right).eval assignment = some (x - y) := by
  induction right generalizing y with
  | neg operand ih =>
    obtain ⟨z, operandValue, rfl⟩ := Expr.eval_neg_eq_some_iff.1 rightValue
    obtain ⟨sum, difference⟩ := ih operandValue
    constructor
    · rw [add]
      split
      · rename_i zero
        rw [rightValue, eq_of_isLiteral zero leftValue, zero_add]
      · rw [difference, sub_eq_add_neg]
    · rw [sub]
      split
      · rename_i zero
        rw [operandValue, eq_of_isLiteral zero leftValue, zero_sub, neg_neg]
      · split
        · rename_i same
          rw [Expr.eq_of_same same, rightValue] at leftValue
          rw [Option.some.inj leftValue, sub_self]
          rfl
        · rw [sum, sub_neg_eq_add]
  | _ =>
    exact ⟨eval_add_of_ne_neg (by simp) leftValue rightValue,
      eval_sub_of_ne_neg (by simp) leftValue rightValue⟩

/-- A sum has the value of the plain sum. -/
theorem eval_add (leftValue : left.eval assignment = some x)
    (rightValue : right.eval assignment = some y) :
    (add left right).eval assignment = some (x + y) :=
  (eval_add_and_sub leftValue rightValue).1

/-- A difference has the value of the plain difference. -/
theorem eval_sub (leftValue : left.eval assignment = some x)
    (rightValue : right.eval assignment = some y) :
    (sub left right).eval assignment = some (x - y) :=
  (eval_add_and_sub leftValue rightValue).2

/-- The product of operands that are not both opposites. -/
theorem eval_mul_of_ne_neg (noOpposites : ∀ inner inner', left = .neg inner → right ≠ .neg inner')
    (leftValue : left.eval assignment = some x) (rightValue : right.eval assignment = some y) :
    (mul left right).eval assignment = some (x * y) := by
  unfold mul
  split
  · exact eval_folded .mul leftValue rightValue trivial
  · exact absurd rfl (noOpposites _ _ rfl)
  · split
    · rename_i zero
      rcases Bool.or_eq_true_iff.1 zero with zero | zero
      · rw [eq_of_isLiteral zero leftValue, zero_mul]
        rfl
      · rw [eq_of_isLiteral zero rightValue, mul_zero]
        rfl
    · split
      · rename_i one
        rw [rightValue, eq_of_isLiteral one leftValue, one_mul]
      · split
        · rename_i one
          rw [leftValue, eq_of_isLiteral one rightValue, mul_one]
        · split
          · rename_i minusOne
            rw [eval_neg rightValue, eq_of_isLiteral minusOne leftValue, neg_one_mul]
          · split
            · rename_i minusOne
              rw [eval_neg leftValue, eq_of_isLiteral minusOne rightValue, mul_neg_one]
            · exact eval_plain .mul leftValue rightValue trivial

/-- A product has the value of the plain product. -/
theorem eval_mul (leftValue : left.eval assignment = some x)
    (rightValue : right.eval assignment = some y) :
    (mul left right).eval assignment = some (x * y) := by
  induction left generalizing right x y with
  | neg operand ih =>
    cases right with
    | neg operand' =>
      obtain ⟨z, operandValue, rfl⟩ := Expr.eval_neg_eq_some_iff.1 leftValue
      obtain ⟨z', operandValue', rfl⟩ := Expr.eval_neg_eq_some_iff.1 rightValue
      rw [mul, ih operandValue operandValue', neg_mul_neg]
    | _ => exact eval_mul_of_ne_neg (by simp) leftValue rightValue
  | _ => exact eval_mul_of_ne_neg (by simp) leftValue rightValue

/-- A quotient that is not folded has the value of the plain quotient. -/
theorem eval_divNeutral (leftValue : left.eval assignment = some x)
    (rightValue : right.eval assignment = some y) (nonzero : y ≠ 0) :
    (divNeutral left right).eval assignment = some (x / y) := by
  unfold divNeutral
  split
  · rename_i zero
    rw [eq_of_isLiteral zero leftValue, zero_div]
    rfl
  · split
    · rename_i one
      rw [leftValue, eq_of_isLiteral one rightValue, div_one]
    · exact eval_plain .div leftValue rightValue nonzero

/-- A quotient by a number other than zero has the value of the plain quotient. -/
theorem eval_div (leftValue : left.eval assignment = some x)
    (rightValue : right.eval assignment = some y) (nonzero : y ≠ 0) :
    (div left right).eval assignment = some (x / y) := by
  unfold div
  split
  · split
    · exact eval_divNeutral leftValue rightValue nonzero
    · exact eval_folded .div leftValue rightValue nonzero
  · exact eval_divNeutral leftValue rightValue nonzero

/-- A power that is not folded has the value of the plain power. -/
theorem eval_powNeutral (baseValue : left.eval assignment = some x)
    (exponentValue : right.eval assignment = some y) (isDefined : Operation.pow.Defined x y) :
    (powNeutral left right).eval assignment = some (x ^ y) := by
  unfold powNeutral
  split
  · rename_i zero
    rw [eq_of_isLiteral zero exponentValue, Real.rpow_zero]
    rfl
  · split
    · rename_i one
      rw [baseValue, eq_of_isLiteral one exponentValue, Real.rpow_one]
    · split
      · rename_i one
        rw [eq_of_isLiteral one baseValue, Real.one_rpow]
        rfl
      · exact eval_plain .pow baseValue exponentValue isDefined

/-- A power has the value of the plain power where that is defined. -/
theorem eval_pow (baseValue : left.eval assignment = some x)
    (exponentValue : right.eval assignment = some y) (isDefined : Operation.pow.Defined x y) :
    (pow left right).eval assignment = some (x ^ y) := by
  unfold pow
  split
  · split
    · exact eval_folded .pow baseValue exponentValue isDefined
    · exact eval_powNeutral baseValue exponentValue isDefined
  · exact eval_powNeutral baseValue exponentValue isDefined

/-- The angle of a point has the value of the plain angle. -/
theorem eval_atan2 (yValue : left.eval assignment = some y)
    (xValue : right.eval assignment = some x) :
    (atan2 left right).eval assignment = some (Complex.arg ⟨x, y⟩) := by
  unfold atan2
  split
  · exact eval_folded .atan2 yValue xValue trivial
  · exact eval_plain .atan2 yValue xValue trivial

/-- An operation has the value of the plain node where it is defined. -/
theorem eval_binary {operation : Operation} (leftValue : left.eval assignment = some x)
    (rightValue : right.eval assignment = some y) (isDefined : operation.Defined x y) :
    (binary operation left right).eval assignment = some (operation.value x y) := by
  cases operation with
  | add => exact eval_add leftValue rightValue
  | sub => exact eval_sub leftValue rightValue
  | mul => exact eval_mul leftValue rightValue
  | div => exact eval_div leftValue rightValue isDefined
  | pow => exact eval_pow leftValue rightValue isDefined
  | atan2 => exact eval_atan2 leftValue rightValue

/-- A function has the value of the plain call where it is defined. -/
theorem eval_call {function : Elementary} (value : operand.eval assignment = some x)
    (isDefined : function.Defined x) :
    (call function operand).eval assignment = some (function.value x) := by
  have plain : (Expr.call function operand).eval assignment = some (function.value x) :=
    Expr.eval_call_eq_some_iff.2 ⟨x, value, isDefined, rfl⟩
  unfold call
  split
  · split
    · rw [eval_literal]
      exact plain
    · exact plain
  · exact plain

end Simplify

namespace Expr

variable {assignment : String → Exact}

/-- An expression with a value keeps it when it is simplified. -/
theorem eval_simplify {expr : Expr Exact} {result : ℝ}
    (value : expr.eval assignment = some result) :
    expr.simplify.eval assignment = some result := by
  induction expr generalizing result with
  | literal number => rw [simplify, Simplify.eval_literal, ← value, eval]
  | symbol name => exact value
  | neg operand ih =>
    obtain ⟨x, operandValue, rfl⟩ := eval_neg_eq_some_iff.1 value
    exact Simplify.eval_neg (ih operandValue)
  | binary operation left right ihLeft ihRight =>
    obtain ⟨x, y, leftValue, rightValue, isDefined, rfl⟩ := eval_binary_eq_some_iff.1 value
    exact Simplify.eval_binary (ihLeft leftValue) (ihRight rightValue) isDefined
  | call function argument ih =>
    obtain ⟨x, argumentValue, isDefined, rfl⟩ := eval_call_eq_some_iff.1 value
    exact Simplify.eval_call (ih argumentValue) isDefined

/-- Where every part of an expression has a value, every part of its simplified
form has one too, and both forms have the same value as a whole. -/
theorem simplify_keeps_value (expr : Expr Exact) (assignment : String → Exact)
    (hasValues : ∀ part ∈ expr.parts, part.eval assignment ≠ none) :
    (∀ part ∈ expr.simplify.parts, part.eval assignment ≠ none) ∧
      expr.simplify.eval assignment = expr.eval assignment := by
  obtain ⟨result, value⟩ := Option.ne_none_iff_exists'.1 (hasValues expr expr.self_mem_parts)
  have simplified := eval_simplify value
  exact ⟨eval_part_ne_none simplified, simplified.trans value.symm⟩

/-- The difference `0 - -(y / x)` where both symbols are two. -/
theorem simplify_keeps_value_of_quotient :
    (∀ part ∈ (Expr.sub (.literal (some 0)) (.neg (.div (.symbol "y") (.symbol "x")))).parts,
      part.eval (fun _ => (some 2 : Exact)) ≠ none) ∧
    (Expr.sub (.literal (some 0)) (.neg (.div (.symbol "y") (.symbol "x")))).simplify.eval
      (fun _ => (some 2 : Exact)) = some 1 := by
  have quotient : (Expr.div (.symbol "y") (.symbol "x")).eval (fun _ => (some 2 : Exact)) =
      some 1 := eval_binary_eq_some_iff.2 ⟨2, 2, rfl, rfl, two_ne_zero, div_self two_ne_zero⟩
  have difference :
      (Expr.sub (.literal (some 0)) (.neg (.div (.symbol "y") (.symbol "x")))).eval
        (fun _ => (some 2 : Exact)) = some 1 :=
    eval_binary_eq_some_iff.2 ⟨0, -1, rfl, eval_neg_eq_some_iff.2 ⟨1, quotient, rfl⟩, trivial,
      by norm_num [Operation.value]⟩
  have hasValues := eval_part_ne_none difference
  exact ⟨hasValues, (simplify_keeps_value _ _ hasValues).2.trans difference⟩

end Expr

end KalmanHeader
