import Mathlib
import KalmanHeader.Calculus.Simplify
import KalmanHeader.Proofs.Expr.Parts

/-!
# Exact numbers

Read exactly, a number is a real number, or nothing where an operation has no
value: a quotient by zero, the logarithm of a number that is not positive, and
so on. Zero has no sign, and any number to the power zero is one. Operations on
nothing give nothing, so an expression has a value exactly when all of its parts
have one.
-/

namespace KalmanHeader

/-- A real number, or nothing where an operation has no value. -/
abbrev Exact := Option ℝ

namespace Operation

/-- Where an operation on real numbers has a value. -/
def Defined : Operation → ℝ → ℝ → Prop
  | .add, _, _ | .sub, _, _ | .mul, _, _ | .atan2, _, _ => True
  | .div, _, divisor => divisor ≠ 0
  | .pow, base, exponent =>
    0 < base ∨ (base = 0 ∧ 0 ≤ exponent) ∨ (base < 0 ∧ ∃ whole : ℤ, exponent = whole)

/-- The value of an operation on real numbers, where it has one. -/
noncomputable def value : Operation → ℝ → ℝ → ℝ
  | .add, left, right => left + right
  | .sub, left, right => left - right
  | .mul, left, right => left * right
  | .div, left, right => left / right
  | .pow, base, exponent => base ^ exponent
  | .atan2, y, x => Complex.arg ⟨x, y⟩

end Operation

namespace Elementary

/-- Where an elementary function of a real number has a value. -/
def Defined : Elementary → ℝ → Prop
  | .tan, argument => Real.cos argument ≠ 0
  | .asin, argument | .acos, argument => -1 ≤ argument ∧ argument ≤ 1
  | .ln, argument => 0 < argument
  | .sqrt, argument => 0 ≤ argument
  | _, _ => True

/-- The value of an elementary function of a real number, where it has one. -/
noncomputable def value : Elementary → ℝ → ℝ
  | .sin => Real.sin
  | .cos => Real.cos
  | .tan => Real.tan
  | .asin => Real.arcsin
  | .acos => Real.arccos
  | .atan => Real.arctan
  | .sinh => Real.sinh
  | .cosh => Real.cosh
  | .tanh => Real.tanh
  | .exp => Real.exp
  | .ln => Real.log
  | .sqrt => Real.sqrt
  | .abs => fun argument => |argument|

end Elementary

namespace Exact

open Classical in
/-- An operation on numbers that may be nothing. -/
noncomputable def operate (operation : Operation) : Exact → Exact → Exact
  | some left, some right =>
    if operation.Defined left right then some (operation.value left right) else none
  | _, _ => none

open Classical in
/-- An elementary function of a number that may be nothing. -/
noncomputable def apply (function : Elementary) : Exact → Exact
  | some argument => if function.Defined argument then some (function.value argument) else none
  | none => none

open Classical in
/-- Whether two numbers are there and equal. -/
noncomputable def same (left right : Exact) : Bool :=
  decide (left ≠ none ∧ left = right)

noncomputable instance : Scalar Exact where
  zero := some 0
  one := some 1
  two := some 2
  undefined := none
  negate := Option.map (-·)
  operate := operate
  apply := apply
  same := same
  isFinite := Option.isSome

/-- An operation gives a number exactly when it is defined on two numbers. -/
theorem operate_eq_some_iff {operation : Operation} {left right : Exact} {result : ℝ} :
    operate operation left right = some result ↔
      ∃ x y, left = some x ∧ right = some y ∧ operation.Defined x y ∧
        operation.value x y = result := by
  cases left with
  | none => simp [operate]
  | some x =>
    cases right with
    | none => simp [operate]
    | some y => simp [operate]

/-- A function gives a number exactly when it is defined at a number. -/
theorem apply_eq_some_iff {function : Elementary} {argument : Exact} {result : ℝ} :
    apply function argument = some result ↔
      ∃ x, argument = some x ∧ function.Defined x ∧ function.value x = result := by
  cases argument <;> simp [apply]

/-- Two numbers are the same when both are there and equal. -/
theorem same_eq_true_iff {left right : Exact} :
    same left right = true ↔ left ≠ none ∧ left = right := by
  simp [same]

end Exact

namespace Expr

section Exact

variable {assignment : String → Exact}

/-- A literal has its number as value. -/
theorem eval_literal (value : Exact) : (Expr.literal value).eval assignment = value :=
  rfl

/-- The opposite of an expression has the opposite value. -/
theorem eval_neg_eq_some_iff {operand : Expr Exact} {result : ℝ} :
    (Expr.neg operand).eval assignment = some result ↔
      ∃ x, operand.eval assignment = some x ∧ -x = result :=
  Option.map_eq_some_iff

/-- An operation has a value where it is defined on the values of its operands. -/
theorem eval_binary_eq_some_iff {operation : Operation} {left right : Expr Exact} {result : ℝ} :
    (Expr.binary operation left right).eval assignment = some result ↔
      ∃ x y, left.eval assignment = some x ∧ right.eval assignment = some y ∧
        operation.Defined x y ∧ operation.value x y = result :=
  Exact.operate_eq_some_iff

/-- A call has a value where its function is defined at the value of the argument. -/
theorem eval_call_eq_some_iff {function : Elementary} {argument : Expr Exact} {result : ℝ} :
    (Expr.call function argument).eval assignment = some result ↔
      ∃ x, argument.eval assignment = some x ∧ function.Defined x ∧ function.value x = result :=
  Exact.apply_eq_some_iff

/-- An expression with a value has no part without one. -/
theorem eval_part_ne_none {expr : Expr Exact} {result : ℝ}
    (hasValue : expr.eval assignment = some result) :
    ∀ part ∈ expr.parts, part.eval assignment ≠ none := by
  induction expr generalizing result with
  | literal value =>
    intro part member
    rw [List.mem_singleton.1 member, hasValue]
    exact Option.some_ne_none _
  | symbol name =>
    intro part member
    rw [List.mem_singleton.1 member, hasValue]
    exact Option.some_ne_none _
  | neg operand ih =>
    obtain ⟨x, operandValue, -⟩ := eval_neg_eq_some_iff.1 hasValue
    intro part member
    rcases List.mem_cons.1 member with rfl | member
    · rw [hasValue]
      exact Option.some_ne_none _
    · exact ih operandValue part member
  | binary operation left right ihLeft ihRight =>
    obtain ⟨x, y, leftValue, rightValue, -⟩ := eval_binary_eq_some_iff.1 hasValue
    intro part member
    rcases List.mem_cons.1 member with rfl | member
    · rw [hasValue]
      exact Option.some_ne_none _
    · rcases List.mem_append.1 member with member | member
      · exact ihLeft leftValue part member
      · exact ihRight rightValue part member
  | call function argument ih =>
    obtain ⟨x, argumentValue, -⟩ := eval_call_eq_some_iff.1 hasValue
    intro part member
    rcases List.mem_cons.1 member with rfl | member
    · rw [hasValue]
      exact Option.some_ne_none _
    · exact ih argumentValue part member

/-- A literal is found by its number. -/
theorem isLiteral_eq_true_iff {expr : Expr Exact} {number : ℝ} :
    expr.isLiteral (some number) = true ↔ expr = .literal (some number) := by
  cases expr with
  | literal value =>
    simp only [isLiteral, Scalar.same, Exact.same_eq_true_iff, literal.injEq]
    constructor
    · exact fun found => found.2
    · rintro rfl
      exact ⟨Option.some_ne_none _, rfl⟩
  | _ => simp [isLiteral]

/-- Trees that count as the same are equal, since zero has no sign. -/
theorem eq_of_same {left right : Expr Exact} (same : left.same right = true) : left = right := by
  induction left generalizing right with
  | literal value =>
    cases right with
    | literal value' =>
      exact congrArg Expr.literal (Exact.same_eq_true_iff.1 same).2
    | _ => simp [Expr.same] at same
  | symbol name =>
    cases right with
    | symbol name' => exact congrArg Expr.symbol (by simpa [Expr.same] using same)
    | _ => simp [Expr.same] at same
  | neg operand ih =>
    cases right with
    | neg operand' => exact congrArg Expr.neg (ih same)
    | _ => simp [Expr.same] at same
  | binary operation first second ihFirst ihSecond =>
    cases right with
    | binary operation' first' second' =>
      simp only [Expr.same, Bool.and_eq_true, beq_iff_eq] at same
      obtain ⟨⟨rfl, sameFirst⟩, sameSecond⟩ := same
      rw [ihFirst sameFirst, ihSecond sameSecond]
    | _ => simp [Expr.same] at same
  | call function argument ih =>
    cases right with
    | call function' argument' =>
      simp only [Expr.same, Bool.and_eq_true, beq_iff_eq] at same
      rw [same.1, ih same.2]
    | _ => simp [Expr.same] at same

end Exact

end Expr

end KalmanHeader
