import KalmanHeader.Calculus.Derivative
import KalmanHeader.Proofs.Calculus.Dual
import KalmanHeader.Proofs.Calculus.Simplification

/-!
# Derivatives are derivatives

At a point where an expression is regular, evaluating it on dual numbers gives its
partial derivative, and the tree that the rules of differentiation build has that
tangent as its value. Both facts are inductions over the expression: the first
uses the rules of calculus on functions, the second the values that simplifying
constructors keep.
-/

namespace KalmanHeader

open Filter Topology

namespace Expr

variable {point : String → ℝ} {name : String} {expr left right operand : Expr Exact} {dual : Dual}

/-- An operation on dual numbers where it is defined. -/
theorem evalDual_binary {operation : Operation} {x y : Dual} {assignment : String → Dual}
    (leftDual : left.evalDual assignment = some x) (rightDual : right.evalDual assignment = some y)
    (isDefined : operation.Defined x.value y.value) :
    (Expr.binary operation left right).evalDual assignment =
      some ⟨operation.value x.value y.value, operation.tangent x y⟩ := by
  simp [evalDual, leftDual, rightDual, Exact.operate, isDefined]

/-- A function of a dual number where it is defined. -/
theorem evalDual_call {function : Elementary} {x : Dual} {assignment : String → Dual}
    (argumentDual : operand.evalDual assignment = some x) (isDefined : function.Defined x.value) :
    (Expr.call function operand).evalDual assignment =
      some ⟨function.value x.value, function.slope x.value * x.tangent⟩ := by
  simp [evalDual, argumentDual, Exact.apply, isDefined]

/-- Whether an expression has, near a point, values that give it the value of a
dual number at the point and the tangent as partial derivative by `name`. -/
def HasPartial (point : String → ℝ) (name : String) (expr : Expr Exact) (dual : Dual) : Prop :=
  ∃ f : ℝ → ℝ, f (point name) = dual.value ∧
    (∀ᶠ t in 𝓝 (point name), expr.eval (exactly (Function.update point name t)) = some (f t)) ∧
    HasDerivAt f dual.tangent (point name)

/-- An expression with a partial derivative has a value at the point. -/
theorem HasPartial.eval_eq (hasPartial : HasPartial point name expr dual) :
    expr.eval (exactly point) = some dual.value := by
  obtain ⟨f, atPoint, near, -⟩ := hasPartial
  have here := near.self_of_nhds
  rwa [Function.update_eq_self, atPoint] at here

/-- A constant has the partial derivative zero. -/
theorem hasPartial_of_constant {number : ℝ}
    (constant : ∀ t, expr.eval (exactly (Function.update point name t)) = some number) :
    HasPartial point name expr ⟨number, 0⟩ :=
  ⟨fun _ => number, rfl, Eventually.of_forall constant, hasDerivAt_const _ _⟩

/-- The partial derivative of an opposite. -/
theorem HasPartial.neg (hasPartial : HasPartial point name operand dual) :
    HasPartial point name (.neg operand) ⟨-dual.value, -dual.tangent⟩ := by
  obtain ⟨f, atPoint, near, rate⟩ := hasPartial
  refine ⟨fun t => -f t, congrArg (-·) atPoint, ?_, rate.neg⟩
  filter_upwards [near] with t value
  exact eval_neg_eq_some_iff.2 ⟨f t, value, rfl⟩

/-- The partial derivative of an operation that is regular. -/
theorem HasPartial.binary {operation : Operation} {x y : Dual}
    (leftPartial : HasPartial point name left x) (rightPartial : HasPartial point name right y)
    (regular : operation.Regular x.value y.value) :
    HasPartial point name (.binary operation left right)
      ⟨operation.value x.value y.value, operation.tangent x y⟩ := by
  obtain ⟨x, x'⟩ := x
  obtain ⟨y, y'⟩ := y
  obtain ⟨f, rfl, nearLeft, rateLeft⟩ := leftPartial
  obtain ⟨g, rfl, nearRight, rateRight⟩ := rightPartial
  refine ⟨fun t => operation.value (f t) (g t), rfl, ?_, regular.hasDerivAt rateLeft rateRight⟩
  filter_upwards [nearLeft, nearRight,
    regular.eventually_defined rateLeft.continuousAt rateRight.continuousAt]
    with t leftValue rightValue isDefined
  exact eval_binary_eq_some_iff.2 ⟨f t, g t, leftValue, rightValue, isDefined, rfl⟩

/-- The partial derivative of a power with a whole exponent. -/
theorem HasPartial.pow_natCast {x : Dual} (count : ℕ) (partialBase : HasPartial point name left x) :
    HasPartial point name (.pow left (.literal (some (count : ℝ))))
      ⟨Operation.pow.value x.value count, Operation.pow.tangent x ⟨count, 0⟩⟩ := by
  obtain ⟨x, x'⟩ := x
  obtain ⟨f, rfl, near, rate⟩ := partialBase
  refine ⟨fun t => Operation.pow.value (f t) count, rfl, ?_,
    Operation.hasDerivAt_pow_natCast count rate⟩
  filter_upwards [near] with t value
  exact eval_binary_eq_some_iff.2
    ⟨f t, count, value, rfl, Operation.defined_pow_natCast (f t) count, rfl⟩

/-- The partial derivative of a regular function, by the chain rule. -/
theorem HasPartial.call {function : Elementary} {x : Dual}
    (argumentPartial : HasPartial point name operand x) (regular : function.Regular x.value) :
    HasPartial point name (.call function operand)
      ⟨function.value x.value, function.slope x.value * x.tangent⟩ := by
  obtain ⟨x, x'⟩ := x
  obtain ⟨f, rfl, near, rate⟩ := argumentPartial
  refine ⟨fun t => function.value (f t), rfl, ?_, regular.hasDerivAt.comp (point name) rate⟩
  filter_upwards [near, regular.eventually rate.continuousAt] with t value regularNear
  exact eval_call_eq_some_iff.2 ⟨f t, value, regularNear.isDefined, rfl⟩

/-- A regular expression has a value on dual numbers, whose tangent is its partial
derivative. -/
theorem Regular.exists_evalDual (regular : expr.Regular point) (name : String) :
    ∃ dual, expr.evalDual (seeded point name) = some dual ∧ HasPartial point name expr dual := by
  induction expr with
  | literal value =>
    obtain ⟨number, rfl⟩ := Option.ne_none_iff_exists'.1 regular
    exact ⟨⟨number, 0⟩, rfl, hasPartial_of_constant fun _ => rfl⟩
  | symbol other =>
    refine ⟨seeded point name other, rfl, ?_⟩
    by_cases isName : other = name
    · subst isName
      refine ⟨id, rfl, Eventually.of_forall fun t => ?_, ?_⟩
      · exact congrArg some (Function.update_self ..)
      · rw [seeded, if_pos rfl]
        exact hasDerivAt_id _
    · rw [seeded, if_neg isName]
      exact hasPartial_of_constant fun t => congrArg some (Function.update_of_ne isName ..)
  | neg operand ih =>
    obtain ⟨dual, operandDual, operandPartial⟩ := ih regular
    exact ⟨_, congrArg (Option.map _) operandDual, operandPartial.neg⟩
  | binary operation left right ihLeft ihRight =>
    obtain ⟨leftRegular, rightRegular, ⟨a, b, leftValue, rightValue, regular⟩ | whole⟩ := regular
    · obtain ⟨x, leftDual, leftPartial⟩ := ihLeft leftRegular
      obtain ⟨y, rightDual, rightPartial⟩ := ihRight rightRegular
      obtain rfl : x.value = a := Option.some.inj (leftPartial.eval_eq.symm.trans leftValue)
      obtain rfl : y.value = b := Option.some.inj (rightPartial.eval_eq.symm.trans rightValue)
      exact ⟨_, evalDual_binary leftDual rightDual regular.isDefined,
        leftPartial.binary rightPartial regular⟩
    · obtain ⟨rfl, count, rfl⟩ := whole
      obtain ⟨x, leftDual, leftPartial⟩ := ihLeft leftRegular
      exact ⟨_, evalDual_binary leftDual rfl (Operation.defined_pow_natCast x.value count),
        leftPartial.pow_natCast count⟩
  | call function argument ih =>
    obtain ⟨argumentRegular, a, argumentValue, regular⟩ := regular
    obtain ⟨x, argumentDual, argumentPartial⟩ := ih argumentRegular
    obtain rfl : x.value = a := Option.some.inj (argumentPartial.eval_eq.symm.trans argumentValue)
    exact ⟨_, evalDual_call argumentDual regular.isDefined, argumentPartial.call regular⟩

/-- The dual value of a regular expression holds its value. -/
theorem Regular.eval_eq (regular : expr.Regular point)
    (dualValue : expr.evalDual (seeded point name) = some dual) :
    expr.eval (exactly point) = some dual.value := by
  obtain ⟨dual', dualValue', hasPartial⟩ := regular.exists_evalDual name
  obtain rfl := Option.some.inj (dualValue.symm.trans dualValue')
  exact hasPartial.eval_eq

end Expr

namespace Derivative

variable {assignment : String → Exact} {name : String} {operand left right left' right' : Expr Exact}

/-- The square of an operand has the square of its value. -/
theorem eval_square {x : ℝ} (value : operand.eval assignment = some x) :
    (square operand).eval assignment = some (x ^ 2) := by
  have isDefined := Operation.defined_pow_natCast x 2
  rw [Nat.cast_ofNat] at isDefined
  rw [square, Simplify.eval_pow value rfl isDefined, Real.rpow_two]

/-- One minus the square of an operand has the value of that. -/
theorem eval_oneMinusSquare {x : ℝ} (value : operand.eval assignment = some x) :
    (oneMinusSquare operand).eval assignment = some (1 - x ^ 2) :=
  Simplify.eval_sub (Expr.eval_literal _) (eval_square value)

/-- A call that is not folded has the value of its function. -/
theorem eval_call (function : Elementary) {x : ℝ} (value : operand.eval assignment = some x)
    (isDefined : function.Defined x) :
    (Expr.call function operand).eval assignment = some (function.value x) :=
  Expr.eval_call_eq_some_iff.2 ⟨x, value, isDefined, rfl⟩

/-- The tree for the derivative of a function has its slope as value. -/
theorem eval_ofElementary {function : Elementary} {x : ℝ}
    (value : operand.eval assignment = some x) (regular : function.Regular x) :
    (ofElementary function operand).eval assignment = some (function.slope x) := by
  have rootDefined : -1 < x ∧ x < 1 → 0 < 1 - x ^ 2 := fun bounds => by nlinarith
  have rootValue : -1 < x ∧ x < 1 →
      (Expr.call .sqrt (oneMinusSquare operand)).eval assignment = some (√(1 - x ^ 2)) :=
    fun bounds => eval_call .sqrt (eval_oneMinusSquare value) (rootDefined bounds).le
  have rootNonzero : -1 < x ∧ x < 1 → √(1 - x ^ 2) ≠ 0 := fun bounds =>
    (Real.sqrt_pos.2 (rootDefined bounds)).ne'
  cases function with
  | sin => exact eval_call .cos value trivial
  | cos => exact Simplify.eval_neg (eval_call .sin value trivial)
  | tan =>
    exact Simplify.eval_div (Expr.eval_literal _) (eval_square (eval_call .cos value trivial))
      (pow_ne_zero 2 regular)
  | asin => exact Simplify.eval_div (Expr.eval_literal _) (rootValue regular) (rootNonzero regular)
  | acos =>
    exact Simplify.eval_neg (Simplify.eval_div (Expr.eval_literal _) (rootValue regular) (rootNonzero regular))
  | atan =>
    have sum := Simplify.eval_add (Expr.eval_literal (some 1)) (eval_square value)
    exact Simplify.eval_div (Expr.eval_literal _) sum (by positivity)
  | sinh => exact eval_call .cosh value trivial
  | cosh => exact eval_call .sinh value trivial
  | tanh => exact Simplify.eval_sub (Expr.eval_literal _) (eval_square (eval_call .tanh value trivial))
  | exp => exact eval_call .exp value trivial
  | ln => exact Simplify.eval_div (Expr.eval_literal _) value (ne_of_gt regular)
  | sqrt =>
    have root := eval_call .sqrt value (le_of_lt regular)
    rw [Elementary.slope, ← two_mul]
    exact Simplify.eval_div (Expr.eval_literal _) (Simplify.eval_mul (Expr.eval_literal _) root)
      (mul_ne_zero two_ne_zero (Real.sqrt_pos.2 regular).ne')
  | abs =>
    exact Simplify.eval_div value (eval_call .abs value trivial) (abs_ne_zero.2 regular)

/-- One less than an exponent has one less than its value. -/
theorem eval_predecessor {y : ℝ} (value : operand.eval assignment = some y) :
    (predecessor operand).eval assignment = some (y - 1) := by
  unfold predecessor
  split
  · exact Simplify.eval_plain .sub value (Expr.eval_literal _) trivial
  · exact Simplify.eval_sub value rfl

/-- The rule for a constant exponent where the base is positive. -/
theorem eval_ofConstantExponent {x y x' : ℝ} (positive : 0 < x)
    (baseValue : left.eval assignment = some x) (exponentValue : right.eval assignment = some y)
    (baseRate : left'.eval assignment = some x') :
    (ofConstantExponent left right left').eval assignment = some (y * x ^ (y - 1) * x') :=
  Simplify.eval_mul (Simplify.eval_mul exponentValue
    (Simplify.eval_pow baseValue (eval_predecessor exponentValue) (.inl positive))) baseRate

/-- A power of anything but a literal is not folded, and only the exponents zero
and one make it anything else than a power. -/
theorem pow_of_ne_literal {number : ℝ} (noLiteral : ∀ value, left ≠ .literal value)
    (notZero : number ≠ 0) (notOne : number ≠ 1) :
    Simplify.pow left (.literal (some number)) = .pow left (.literal (some number)) := by
  unfold Simplify.pow
  split
  · exact absurd rfl (noLiteral _)
  · unfold Simplify.powNeutral
    rw [if_neg, if_neg, if_neg]
    · exact fun one => noLiteral _ (Expr.isLiteral_eq_true_iff.1 one)
    · intro one
      have equal := Expr.isLiteral_eq_true_iff.1 one
      exact notOne (Option.some.inj (Expr.literal.inj equal))
    · intro zero
      have equal := Expr.isLiteral_eq_true_iff.1 zero
      exact notZero (Option.some.inj (Expr.literal.inj equal))

/-- The product of the literal zero and a power is zero. -/
theorem eval_mul_zero_pow :
    (Simplify.mul (.literal (some 0)) (.pow left right)).eval assignment = some 0 := by
  have zero : (Expr.literal (some 0) : Expr Exact).isZero = true :=
    Expr.isLiteral_eq_true_iff.2 rfl
  unfold Simplify.mul
  rw [zero, Bool.true_or, if_pos rfl]
  rfl

/-- The rule for a constant exponent that is a whole number, whatever the base.
For the exponent zero, the power in the rule may have no value, but the product
with zero drops it. -/
theorem eval_ofConstantExponent_natCast {x x' : ℝ} (count : ℕ)
    (noLiteral : ∀ value, left ≠ .literal value) (baseValue : left.eval assignment = some x)
    (baseRate : left'.eval assignment = some x') :
    (ofConstantExponent left (.literal (some (count : ℝ))) left').eval assignment =
      some (count * x ^ ((count : ℝ) - 1) * x') := by
  refine Simplify.eval_mul ?_ baseRate
  cases count with
  | zero =>
    have reciprocal : predecessor (.literal (some ((0 : ℕ) : ℝ))) = .literal (some (-1)) := by
      simp [predecessor, Scalar.operate, Scalar.one, Exact.operate, Operation.Defined,
        Operation.value]
    rw [reciprocal, pow_of_ne_literal noLiteral (by norm_num) (by norm_num)]
    simpa using eval_mul_zero_pow
  | succ count =>
    refine Simplify.eval_mul (Expr.eval_literal _) (Simplify.eval_pow baseValue (eval_predecessor rfl) ?_)
    rw [Nat.cast_succ, add_sub_cancel_right]
    exact Operation.defined_pow_natCast x count

/-- The tree for the derivative of an operation has its rate as value. -/
theorem eval_ofOperation {operation : Operation} {x y : Dual}
    (leftValue : left.eval assignment = some x.value)
    (rightValue : right.eval assignment = some y.value)
    (leftRate : left'.eval assignment = some x.tangent)
    (rightRate : right'.eval assignment = some y.tangent)
    (leftConstant : left.contains name = false → x.tangent = 0)
    (rightConstant : right.contains name = false → y.tangent = 0)
    (regular : operation.Regular x.value y.value) :
    (ofOperation name operation left right left' right').eval assignment =
      some (operation.tangent x y) := by
  cases operation with
  | add => exact Simplify.eval_add leftRate rightRate
  | sub => exact Simplify.eval_sub leftRate rightRate
  | mul =>
    exact Simplify.eval_add (Simplify.eval_mul leftRate rightValue)
      (Simplify.eval_mul leftValue rightRate)
  | div =>
    simp only [ofOperation]
    split
    · exact Simplify.eval_div (Simplify.eval_sub (Simplify.eval_mul leftRate rightValue)
        (Simplify.eval_mul leftValue rightRate)) (eval_square rightValue) (pow_ne_zero 2 regular)
    · rename_i absent
      have nonzero : y.value ≠ 0 := regular
      rw [Simplify.eval_div leftRate rightValue regular, Operation.tangent,
        rightConstant (by simpa using absent)]
      congr 1
      field_simp
      ring
  | pow =>
    have positive : 0 < x.value := regular
    have logarithm := eval_call .ln leftValue positive
    have power := Simplify.eval_pow leftValue rightValue (.inl positive)
    simp only [ofOperation]
    split
    · split
      · have inner := Simplify.eval_add (Simplify.eval_mul rightRate logarithm)
          (Simplify.eval_div (Simplify.eval_mul rightValue leftRate) leftValue positive.ne')
        rw [ofPower, Simplify.eval_mul power inner, Operation.tangent,
          Real.rpow_sub_one positive.ne']
        congr 1
        simp only [Elementary.value]
        field_simp
        ring
      · rename_i absent
        rw [ofConstantBase, Simplify.eval_mul (Simplify.eval_mul power logarithm) rightRate,
          Operation.tangent, leftConstant (by simpa using absent), mul_zero, zero_add]
        rfl
    · rename_i absent
      rw [eval_ofConstantExponent positive leftValue rightValue leftRate, Operation.tangent,
        rightConstant (by simpa using absent), mul_zero, add_zero]
  | atan2 =>
    have nonzero : y.value ^ 2 + x.value ^ 2 ≠ 0 := by
      intro zero
      have atOrigin : y.value = 0 ∧ x.value = 0 := by
        constructor
        · nlinarith [sq_nonneg y.value, sq_nonneg x.value]
        · nlinarith [sq_nonneg y.value, sq_nonneg x.value]
      exact regular ⟨atOrigin.2, atOrigin.1.le⟩
    exact Simplify.eval_div (Simplify.eval_sub (Simplify.eval_mul rightValue leftRate)
      (Simplify.eval_mul leftValue rightRate))
      (Simplify.eval_add (eval_square rightValue) (eval_square leftValue)) nonzero

end Derivative

namespace Operation

/-- An operation on operands that do not change gives a number that does not. -/
theorem tangent_eq_zero {operation : Operation} {x y : Dual} (leftStays : x.tangent = 0)
    (rightStays : y.tangent = 0) : operation.tangent x y = 0 := by
  cases operation <;> simp [tangent, leftStays, rightStays]

end Operation

namespace Expr

variable {point : String → ℝ} {name : String} {expr : Expr Exact} {dual : Dual}

/-- Without the symbol, a regular expression does not change. -/
theorem Regular.tangent_eq_zero (regular : expr.Regular point)
    (dualValue : expr.evalDual (seeded point name) = some dual)
    (absent : expr.contains name = false) : dual.tangent = 0 := by
  induction expr generalizing dual with
  | literal value =>
    obtain ⟨number, -, rfl⟩ := Option.map_eq_some_iff.1 dualValue
    rfl
  | symbol other =>
    obtain rfl := Option.some.inj dualValue
    have different : other ≠ name := by simpa [contains] using absent
    exact if_neg different
  | neg operand ih =>
    obtain ⟨x, operandDual, rfl⟩ := Option.map_eq_some_iff.1 dualValue
    rw [ih regular operandDual absent, neg_zero]
  | binary operation left right ihLeft ihRight =>
    obtain ⟨leftAbsent, rightAbsent⟩ := Bool.or_eq_false_iff.1 absent
    obtain ⟨x, leftDual, -⟩ := regular.1.exists_evalDual name
    obtain ⟨y, rightDual, -⟩ := regular.2.1.exists_evalDual name
    simp only [evalDual, leftDual, rightDual, Option.bind_some] at dualValue
    obtain ⟨value, -, rfl⟩ := Option.map_eq_some_iff.1 dualValue
    exact Operation.tangent_eq_zero (ihLeft regular.1 leftDual leftAbsent)
      (ihRight regular.2.1 rightDual rightAbsent)
  | call function argument ih =>
    obtain ⟨x, argumentDual, -⟩ := regular.1.exists_evalDual name
    simp only [evalDual, argumentDual, Option.bind_some] at dualValue
    obtain ⟨value, -, rfl⟩ := Option.map_eq_some_iff.1 dualValue
    rw [ih regular.1 argumentDual absent, mul_zero]

/-- At a point where an expression is regular, the tree of its derivative has the
tangent of its dual value as value. -/
theorem Regular.eval_derivative (regular : expr.Regular point)
    (dualValue : expr.evalDual (seeded point name) = some dual) :
    (expr.derivative name).eval (exactly point) = some dual.tangent := by
  induction expr generalizing dual with
  | literal value =>
    rw [regular.tangent_eq_zero dualValue rfl]
    rfl
  | symbol other =>
    obtain rfl := Option.some.inj dualValue
    by_cases isName : other = name
    · simp [derivative, contains, seeded, isName, one, eval, Scalar.one]
    · simp [derivative, contains, seeded, isName, zero, eval, Scalar.zero]
  | neg operand ih =>
    by_cases present : (Expr.neg operand).contains name = true
    · obtain ⟨x, operandDual, rfl⟩ := Option.map_eq_some_iff.1 dualValue
      rw [derivative, if_pos present]
      exact Simplify.eval_neg (ih regular operandDual)
    · rw [regular.tangent_eq_zero dualValue (by simpa using present), derivative, if_neg present]
      rfl
  | binary operation left right ihLeft ihRight =>
    by_cases present : (Expr.binary operation left right).contains name = true
    · rw [derivative, if_pos present]
      obtain ⟨leftRegular, rightRegular, regularHere⟩ := regular
      obtain ⟨x, leftDual, -⟩ := leftRegular.exists_evalDual name
      obtain ⟨y, rightDual, -⟩ := rightRegular.exists_evalDual name
      have leftValue := leftRegular.eval_eq leftDual
      have rightValue := rightRegular.eval_eq rightDual
      rcases regularHere with ⟨a, b, leftValue', rightValue', regularHere⟩ | whole
      · obtain rfl := Option.some.inj (leftValue.symm.trans leftValue')
        obtain rfl := Option.some.inj (rightValue.symm.trans rightValue')
        obtain rfl := Option.some.inj
          ((evalDual_binary leftDual rightDual regularHere.isDefined).symm.trans dualValue)
        exact Derivative.eval_ofOperation leftValue rightValue (ihLeft leftRegular leftDual)
          (ihRight rightRegular rightDual) (leftRegular.tangent_eq_zero leftDual)
          (rightRegular.tangent_eq_zero rightDual) regularHere
      · -- The exponent is a literal, so the symbol occurs in the base, which then is none.
        obtain ⟨rfl, count, rfl⟩ := whole
        obtain rfl := Option.some.inj ((evalDual_binary leftDual rfl
          (Operation.defined_pow_natCast x.value count)).symm.trans dualValue)
        have noLiteral : ∀ value, left ≠ .literal value := by
          rintro value rfl
          exact absurd present (by simp [contains])
        simpa [Derivative.ofOperation, contains, Operation.tangent] using
          Derivative.eval_ofConstantExponent_natCast count noLiteral leftValue
            (ihLeft leftRegular leftDual)
    · rw [regular.tangent_eq_zero dualValue (by simpa using present), derivative, if_neg present]
      rfl
  | call function argument ih =>
    by_cases present : (Expr.call function argument).contains name = true
    · rw [derivative, if_pos present]
      obtain ⟨argumentRegular, a, argumentValue, regularHere⟩ := regular
      obtain ⟨x, argumentDual, -⟩ := argumentRegular.exists_evalDual name
      obtain rfl := Option.some.inj ((argumentRegular.eval_eq argumentDual).symm.trans argumentValue)
      obtain rfl := Option.some.inj
        ((evalDual_call argumentDual regularHere.isDefined).symm.trans dualValue)
      exact Simplify.eval_mul (Derivative.eval_ofElementary argumentValue regularHere)
        (ih argumentRegular argumentDual)
    · rw [regular.tangent_eq_zero dualValue (by simpa using present), derivative, if_neg present]
      rfl

/-- At a point where an expression is regular, its simplified derivative by a
symbol has a value. It is the tangent of the expression on dual numbers, and the
derivative of the values that the expression takes when only that symbol moves. -/
theorem diff_is_partial_derivative (expr : Expr Exact) (name : String) (point : String → ℝ)
    (regular : expr.Regular point) :
    ∃ dual, expr.evalDual (seeded point name) = some dual ∧
      (expr.diff name).eval (exactly point) = some dual.tangent ∧
      HasPartial point name expr dual := by
  obtain ⟨dual, dualValue, hasPartial⟩ := regular.exists_evalDual name
  exact ⟨dual, dualValue, eval_simplify (regular.eval_derivative dualValue), hasPartial⟩

/-- The square of `x` over `y`, with a base that is not positive, by `x`. -/
theorem diff_is_partial_derivative_of_quotient :
    (Expr.div (.pow (.symbol "x") (.literal (some 2))) (.symbol "y")).Regular (fun _ => -1) ∧
      ∃ dual, (Expr.div (.pow (.symbol "x") (.literal (some 2))) (.symbol "y")).evalDual
          (seeded (fun _ => -1) "x") = some dual ∧
        ((Expr.div (.pow (.symbol "x") (.literal (some 2))) (.symbol "y")).diff "x").eval
          (exactly fun _ => -1) = some dual.tangent ∧
        HasPartial (fun _ => -1) "x"
          (.div (.pow (.symbol "x") (.literal (some 2))) (.symbol "y")) dual := by
  have whole : (Expr.pow (.symbol "x") (.literal (some 2))).Regular (fun _ => -1) :=
    ⟨trivial, Option.some_ne_none _, .inr ⟨rfl, 2, by norm_num⟩⟩
  have value : (Expr.pow (.symbol "x") (.literal (some 2))).eval (exactly fun _ => -1) =
      some ((-1) ^ (2 : ℝ)) :=
    Simplify.eval_plain .pow rfl (eval_literal _)
      (by simpa using Operation.defined_pow_natCast (-1) 2)
  have regular : (Expr.div (.pow (.symbol "x") (.literal (some 2))) (.symbol "y")).Regular
      (fun _ => -1) :=
    ⟨whole, trivial, .inl ⟨_, -1, value, rfl, by norm_num [Operation.Regular]⟩⟩
  exact ⟨regular, diff_is_partial_derivative _ _ _ regular⟩

end Expr

end KalmanHeader
