import KalmanHeader.Proofs.Calculus.Exact

/-!
# Dual numbers

A dual number is a number together with the rate at which it changes. Operations
and functions act on rates by the rules of calculus, and so an expression can be
evaluated on dual numbers. At a point where the expression is regular, this gives
its value together with its partial derivative by the symbol whose rate is one.
-/

namespace KalmanHeader

open Filter Topology

/-- A real number and the rate at which it changes. -/
structure Dual where
  value : ℝ
  tangent : ℝ

namespace Operation

/-- The rate of an operation, by the rules for sums, differences, products,
quotients, powers and angles. The second part of the rule for powers vanishes
where the exponent is constant, and only there may the base not be positive. -/
noncomputable def tangent : Operation → Dual → Dual → ℝ
  | .add, left, right => left.tangent + right.tangent
  | .sub, left, right => left.tangent - right.tangent
  | .mul, left, right => left.tangent * right.value + left.value * right.tangent
  | .div, left, right =>
    (left.tangent * right.value - left.value * right.tangent) / right.value ^ 2
  | .pow, base, exponent =>
    exponent.value * base.value ^ (exponent.value - 1) * base.tangent +
      base.value ^ exponent.value * Real.log base.value * exponent.tangent
  | .atan2, y, x => (x.value * y.tangent - y.value * x.tangent) / (x.value ^ 2 + y.value ^ 2)

/-- Where an operation on real numbers is differentiable in both operands. -/
def Regular : Operation → ℝ → ℝ → Prop
  | .add, _, _ | .sub, _, _ | .mul, _, _ => True
  | .div, _, divisor => divisor ≠ 0
  | .pow, base, _ => 0 < base
  | .atan2, y, x => ¬(y = 0 ∧ x ≤ 0)

end Operation

namespace Elementary

/-- The derivative of an elementary function. -/
noncomputable def slope : Elementary → ℝ → ℝ
  | .sin, argument => Real.cos argument
  | .cos, argument => -Real.sin argument
  | .tan, argument => 1 / Real.cos argument ^ 2
  | .asin, argument => 1 / √(1 - argument ^ 2)
  | .acos, argument => -(1 / √(1 - argument ^ 2))
  | .atan, argument => 1 / (1 + argument ^ 2)
  | .sinh, argument => Real.cosh argument
  | .cosh, argument => Real.sinh argument
  | .tanh, argument => 1 - Real.tanh argument ^ 2
  | .exp, argument => Real.exp argument
  | .ln, argument => 1 / argument
  | .sqrt, argument => 1 / (√argument + √argument)
  | .abs, argument => argument / |argument|

/-- Where an elementary function is differentiable. -/
def Regular : Elementary → ℝ → Prop
  | .tan, argument => Real.cos argument ≠ 0
  | .asin, argument | .acos, argument => -1 < argument ∧ argument < 1
  | .ln, argument | .sqrt, argument => 0 < argument
  | .abs, argument => argument ≠ 0
  | _, _ => True

end Elementary

/-- The assignment that gives each symbol a real number. -/
def exactly (point : String → ℝ) : String → Exact := fun name => some (point name)

/-- The dual numbers at `point`, where the symbol `name` changes at rate one and
all others stay. -/
def seeded (point : String → ℝ) (name : String) : String → Dual := fun other =>
  ⟨point other, if other = name then 1 else 0⟩

namespace Expr

/-- The value of an expression on dual numbers. -/
noncomputable def evalDual (assignment : String → Dual) : Expr Exact → Option Dual
  | .literal value => value.map fun number => ⟨number, 0⟩
  | .symbol name => some (assignment name)
  | .neg operand => (operand.evalDual assignment).map fun dual => ⟨-dual.value, -dual.tangent⟩
  | .binary operation left right =>
    (left.evalDual assignment).bind fun x => (right.evalDual assignment).bind fun y =>
      (Exact.operate operation (some x.value) (some y.value)).map fun value =>
        ⟨value, operation.tangent x y⟩
  | .call function argument =>
    (argument.evalDual assignment).bind fun x =>
      (Exact.apply function (some x.value)).map fun value =>
        ⟨value, function.slope x.value * x.tangent⟩

/-- Whether an expression is regular at a point: in each part of it, the operation
or function is differentiable at the values of its operands, or it is a power
whose exponent is a whole number written as a literal. -/
def Regular (point : String → ℝ) : Expr Exact → Prop
  | .literal value => value ≠ none
  | .symbol _ => True
  | .neg operand => operand.Regular point
  | .binary operation left right =>
    left.Regular point ∧ right.Regular point ∧
      ((∃ x y, left.eval (exactly point) = some x ∧ right.eval (exactly point) = some y ∧
        operation.Regular x y) ∨
      (operation = .pow ∧ ∃ count : ℕ, right = .literal (some (count : ℝ))))
  | .call function argument =>
    argument.Regular point ∧
      ∃ x, argument.eval (exactly point) = some x ∧ function.Regular x

end Expr

namespace Operation

/-- An operation is defined where it is regular. -/
theorem Regular.isDefined {operation : Operation} {x y : ℝ} (regular : operation.Regular x y) :
    operation.Defined x y := by
  cases operation with
  | div => exact regular
  | pow => exact .inl regular
  | _ => trivial

/-- A power with a whole exponent is defined. -/
theorem defined_pow_natCast (base : ℝ) (count : ℕ) : Operation.pow.Defined base count := by
  rcases lt_trichotomy base 0 with negative | rfl | positive
  · exact .inr (.inr ⟨negative, count, by simp⟩)
  · exact .inr (.inl ⟨rfl, count.cast_nonneg⟩)
  · exact .inl positive

variable {f g : ℝ → ℝ} {f' g' t : ℝ}

/-- Near a point where an operation is regular it is defined. -/
theorem Regular.eventually_defined {operation : Operation} (regular : operation.Regular (f t) (g t))
    (continuousF : ContinuousAt f t) (continuousG : ContinuousAt g t) :
    ∀ᶠ s in 𝓝 t, operation.Defined (f s) (g s) := by
  cases operation with
  | div => exact continuousG.eventually_ne regular
  | pow => exact (continuousF.eventually_const_lt regular).mono fun _ => .inl
  | _ => exact Eventually.of_forall fun _ => trivial

/-- The angle of a moving point changes as the rule for angles says. -/
theorem hasDerivAt_arg (offCut : ¬(g t = 0 ∧ f t ≤ 0)) (rateF : HasDerivAt f f' t)
    (rateG : HasDerivAt g g' t) :
    HasDerivAt (fun s => Complex.arg ⟨f s, g s⟩)
      ((f t * g' - g t * f') / (f t ^ 2 + g t ^ 2)) t := by
  have inSlitPlane : (⟨f t, g t⟩ : ℂ) ∈ Complex.slitPlane := by
    rw [Complex.mem_slitPlane_iff]
    by_contra outside
    simp only [not_or, not_lt, not_not] at outside
    exact offCut ⟨outside.2, outside.1⟩
  have moving : HasDerivAt (fun s => (⟨f s, g s⟩ : ℂ)) ⟨f', g'⟩ t := by
    simp only [Complex.mk_eq_add_mul_I]
    exact rateF.ofReal_comp.add (rateG.ofReal_comp.mul_const Complex.I)
  have logarithm := moving.clog_real inSlitPlane
  have angle := Complex.imCLM.hasFDerivAt.comp_hasDerivAt t logarithm
  have sameFunction : (fun s => Complex.arg ⟨f s, g s⟩) =
      Complex.imCLM ∘ fun s => Complex.log ⟨f s, g s⟩ := by
    funext s
    exact (Complex.log_im _).symm
  rw [sameFunction]
  refine angle.congr_deriv ?_
  rw [Complex.imCLM_apply, Complex.div_im, Complex.normSq_mk]
  ring

/-- Where an operation is regular, it changes as its rule says. -/
theorem Regular.hasDerivAt {operation : Operation} (regular : operation.Regular (f t) (g t))
    (rateF : HasDerivAt f f' t) (rateG : HasDerivAt g g' t) :
    HasDerivAt (fun s => operation.value (f s) (g s))
      (operation.tangent ⟨f t, f'⟩ ⟨g t, g'⟩) t := by
  cases operation with
  | add => exact rateF.add rateG
  | sub => exact rateF.sub rateG
  | mul => exact rateF.mul rateG
  | div => exact rateF.div rateG regular
  | pow =>
    refine (rateF.rpow rateG regular).congr_deriv ?_
    simp only [tangent]
    ring
  | atan2 => exact hasDerivAt_arg regular rateG rateF

/-- A power with a constant whole exponent changes as the rule for powers says,
whatever its base. -/
theorem hasDerivAt_pow_natCast (count : ℕ) (rate : HasDerivAt f f' t) :
    HasDerivAt (fun s => Operation.pow.value (f s) count)
      (Operation.pow.tangent ⟨f t, f'⟩ ⟨count, 0⟩) t := by
  simp only [value, tangent, Real.rpow_natCast, mul_zero, add_zero]
  refine (rate.fun_pow count).congr_deriv ?_
  cases count with
  | zero => simp
  | succ count => simp [Real.rpow_natCast]

end Operation

namespace Elementary

variable {f : ℝ → ℝ} {f' t : ℝ}

/-- An elementary function is defined where it is regular. -/
theorem Regular.isDefined {function : Elementary} {x : ℝ} (regular : function.Regular x) :
    function.Defined x := by
  cases function with
  | tan => exact regular
  | asin => exact ⟨regular.1.le, regular.2.le⟩
  | acos => exact ⟨regular.1.le, regular.2.le⟩
  | ln => exact regular
  | sqrt => exact le_of_lt regular
  | _ => trivial

/-- Near a point where an elementary function is regular it is regular. -/
theorem Regular.eventually {function : Elementary} (regular : function.Regular (f t))
    (continuousF : ContinuousAt f t) : ∀ᶠ s in 𝓝 t, function.Regular (f s) := by
  have within : -1 < f t ∧ f t < 1 → ∀ᶠ s in 𝓝 t, -1 < f s ∧ f s < 1 := fun bounds =>
    (continuousF.eventually_const_lt bounds.1).and (continuousF.eventually_lt_const bounds.2)
  cases function with
  | tan => exact (Real.continuous_cos.continuousAt.comp continuousF).eventually_ne regular
  | asin => exact within regular
  | acos => exact within regular
  | ln => exact continuousF.eventually_const_lt regular
  | sqrt => exact continuousF.eventually_const_lt regular
  | abs => exact continuousF.eventually_ne regular
  | _ => exact Eventually.of_forall fun _ => trivial

/-- The derivative of the hyperbolic tangent. -/
theorem hasDerivAt_tanh (x : ℝ) : HasDerivAt Real.tanh (1 - Real.tanh x ^ 2) x := by
  have positive := Real.cosh_pos x
  have quotient := (Real.hasDerivAt_sinh x).div (Real.hasDerivAt_cosh x) positive.ne'
  have sameFunction : Real.tanh = Real.sinh / Real.cosh := by
    funext y
    exact Real.tanh_eq_sinh_div_cosh y
  rw [sameFunction]
  refine quotient.congr_deriv ?_
  simp only [Pi.div_apply]
  field_simp

/-- The derivative of the absolute value. -/
theorem hasDerivAt_abs_div {x : ℝ} (nonzero : x ≠ 0) :
    HasDerivAt (fun y : ℝ => |y|) (x / |x|) x := by
  refine (hasDerivAt_abs nonzero).congr_deriv ?_
  rcases nonzero.lt_or_gt with negative | positive
  · rw [abs_of_neg negative, div_neg, div_self nonzero, sign_neg negative]
    rfl
  · rw [abs_of_pos positive, div_self nonzero, sign_pos positive]
    rfl

/-- Where an elementary function is regular, its slope is its derivative. -/
theorem Regular.hasDerivAt {function : Elementary} {x : ℝ} (regular : function.Regular x) :
    HasDerivAt function.value (function.slope x) x := by
  cases function with
  | sin => exact Real.hasDerivAt_sin x
  | cos => exact Real.hasDerivAt_cos x
  | tan => exact Real.hasDerivAt_tan regular
  | asin => exact Real.hasDerivAt_arcsin regular.1.ne' regular.2.ne
  | acos => exact Real.hasDerivAt_arccos regular.1.ne' regular.2.ne
  | atan => exact Real.hasDerivAt_arctan x
  | sinh => exact Real.hasDerivAt_sinh x
  | cosh => exact Real.hasDerivAt_cosh x
  | tanh => exact hasDerivAt_tanh x
  | exp => exact Real.hasDerivAt_exp x
  | ln =>
    rw [slope, one_div]
    exact Real.hasDerivAt_log regular.ne'
  | sqrt =>
    rw [slope, ← two_mul]
    exact Real.hasDerivAt_sqrt regular.ne'
  | abs => exact hasDerivAt_abs_div regular

end Elementary

end KalmanHeader
