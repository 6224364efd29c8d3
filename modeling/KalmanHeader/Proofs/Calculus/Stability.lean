import KalmanHeader.Calculus.Jacobian

/-!
# Simplified expressions are stable

An expression is stable when no simplifying constructor would change any of its
nodes. The constructors turn stable operands into stable expressions, so one pass
of simplification is enough, and the entries of a Jacobian are plain derivatives:
what is done to a derivative after it has been simplified changes nothing.
-/

namespace KalmanHeader

namespace Simplify

variable {ν : Type} [Scalar ν] {operand left right : Expr ν}

/-- Whether each node is what its simplifying constructor makes of it. -/
def Stable : Expr ν → Prop
  | .literal value => literal value = .literal value
  | .symbol _ => True
  | .neg operand => neg operand = .neg operand ∧ Stable operand
  | .binary operation left right =>
    binary operation left right = .binary operation left right ∧ Stable left ∧ Stable right
  | .call function argument => call function argument = .call function argument ∧ Stable argument

/-- Simplifying a stable expression changes nothing. -/
theorem simplify_of_stable {expr : Expr ν} (stable : Stable expr) : expr.simplify = expr := by
  induction expr with
  | literal value => exact stable
  | symbol name => rfl
  | neg operand ih =>
    obtain ⟨node, inner⟩ := stable
    rw [Expr.simplify, ih inner, node]
  | binary operation left right ihLeft ihRight =>
    obtain ⟨node, stableLeft, stableRight⟩ := stable
    rw [Expr.simplify, ihLeft stableLeft, ihRight stableRight, node]
  | call function argument ih =>
    obtain ⟨node, inner⟩ := stable
    rw [Expr.simplify, ih inner, node]

/-- The literal zero is stable. -/
theorem stable_zero : Stable (.zero : Expr ν) := by
  change literal Scalar.zero = .literal Scalar.zero
  unfold literal
  split
  · rfl
  · rfl

/-- A folded literal is stable. -/
theorem stable_literal (value : ν) : Stable (literal value) := by
  unfold literal
  split
  · exact stable_zero
  · rename_i nonzero
    exact if_neg nonzero

/-- The opposite of a stable operand is stable. -/
theorem stable_neg (stable : Stable operand) : Stable (neg operand) := by
  cases operand with
  | literal value => exact stable_literal _
  | neg inner => exact stable.2
  | symbol | binary | call => exact ⟨rfl, stable⟩

/-- An operation that does not keep its operands as they are only has to be stable
otherwise. -/
theorem stable_binary (operation : Operation) (stableLeft : Stable left)
    (stableRight : Stable right)
    (otherwise : binary operation left right = .binary operation left right ∨
      Stable (binary operation left right)) : Stable (binary operation left right) := by
  rcases otherwise with plain | stable
  · rw [plain]
    exact ⟨plain, stableLeft, stableRight⟩
  · exact stable

/-- The sum of stable operands where the right one is no opposite. -/
theorem stable_add_of_ne_neg (noOpposite : ∀ inner, right ≠ .neg inner) (stableLeft : Stable left)
    (stableRight : Stable right) : Stable (add left right) := by
  refine stable_binary .add stableLeft stableRight ?_
  change add left right = _ ∨ Stable (add left right)
  unfold add
  split
  · exact .inr (stable_literal _)
  · exact absurd rfl (noOpposite _)
  · split
    · exact .inr stableRight
    · split
      · exact .inr stableLeft
      · exact .inl rfl

/-- The difference of stable operands where the right one is no opposite. -/
theorem stable_sub_of_ne_neg (noOpposite : ∀ inner, right ≠ .neg inner) (stableLeft : Stable left)
    (stableRight : Stable right) : Stable (sub left right) := by
  refine stable_binary .sub stableLeft stableRight ?_
  change sub left right = _ ∨ Stable (sub left right)
  unfold sub
  split
  · exact .inr (stable_literal _)
  · exact absurd rfl (noOpposite _)
  · split
    · exact .inr stableLeft
    · split
      · exact .inr (stable_neg stableRight)
      · split
        · exact .inr stable_zero
        · exact .inl rfl

/-- Sums and differences of stable operands are stable. They are taken together since
an opposite on the right turns one into the other. -/
theorem stable_add_and_sub (stableLeft : Stable left) (stableRight : Stable right) :
    Stable (add left right) ∧ Stable (sub left right) := by
  induction right with
  | neg operand ih =>
    obtain ⟨sum, difference⟩ := ih stableRight.2
    constructor
    · rw [add]
      split
      · exact stableRight
      · exact difference
    · rw [sub]
      split
      · exact stableRight.2
      · split
        · exact stable_zero
        · exact sum
  | _ =>
    exact ⟨stable_add_of_ne_neg (by simp) stableLeft stableRight,
      stable_sub_of_ne_neg (by simp) stableLeft stableRight⟩

/-- The product of stable operands that are not both opposites. -/
theorem stable_mul_of_ne_neg (noOpposites : ∀ inner inner', left = .neg inner → right ≠ .neg inner')
    (stableLeft : Stable left) (stableRight : Stable right) : Stable (mul left right) := by
  refine stable_binary .mul stableLeft stableRight ?_
  change mul left right = _ ∨ Stable (mul left right)
  unfold mul
  split
  · exact .inr (stable_literal _)
  · exact absurd rfl (noOpposites _ _ rfl)
  · split
    · exact .inr stable_zero
    · split
      · exact .inr stableRight
      · split
        · exact .inr stableLeft
        · split
          · exact .inr (stable_neg stableRight)
          · split
            · exact .inr (stable_neg stableLeft)
            · exact .inl rfl

/-- A product of stable operands is stable. -/
theorem stable_mul (stableLeft : Stable left) (stableRight : Stable right) :
    Stable (mul left right) := by
  induction left generalizing right with
  | neg operand ih =>
    cases right with
    | neg operand' =>
      rw [mul]
      exact ih stableLeft.2 stableRight.2
    | _ => exact stable_mul_of_ne_neg (by simp) stableLeft stableRight
  | _ => exact stable_mul_of_ne_neg (by simp) stableLeft stableRight

/-- A quotient of stable operands is stable. -/
theorem stable_div (stableLeft : Stable left) (stableRight : Stable right) :
    Stable (div left right) := by
  have neutral : divNeutral left right = .div left right ∨ Stable (divNeutral left right) := by
    unfold divNeutral
    split
    · exact .inr stable_zero
    · split
      · exact .inr stableLeft
      · exact .inl rfl
  refine stable_binary .div stableLeft stableRight ?_
  change div left right = _ ∨ Stable (div left right)
  unfold div
  split
  · split
    · exact neutral
    · exact .inr (stable_literal _)
  · exact neutral

/-- A power of stable operands is stable, provided that one is not zero. -/
theorem stable_pow (distinct : Scalar.same (Scalar.one : ν) Scalar.zero = false)
    (stableLeft : Stable left) (stableRight : Stable right) : Stable (pow left right) := by
  have one : Stable (.one : Expr ν) := if_neg (by rw [distinct]; decide)
  have neutral : powNeutral left right = .pow left right ∨ Stable (powNeutral left right) := by
    unfold powNeutral
    split
    · exact .inr one
    · split
      · exact .inr stableLeft
      · split
        · exact .inr one
        · exact .inl rfl
  refine stable_binary .pow stableLeft stableRight ?_
  change pow left right = _ ∨ Stable (pow left right)
  unfold pow
  split
  · split
    · exact .inr (stable_literal _)
    · exact neutral
  · exact neutral

/-- An angle of stable operands is stable. -/
theorem stable_atan2 (stableLeft : Stable left) (stableRight : Stable right) :
    Stable (atan2 left right) := by
  refine stable_binary .atan2 stableLeft stableRight ?_
  change atan2 left right = _ ∨ Stable (atan2 left right)
  unfold atan2
  split
  · exact .inr (stable_literal _)
  · exact .inl rfl

/-- A function of a stable operand is stable. -/
theorem stable_call (function : Elementary) (stable : Stable operand) :
    Stable (call function operand) := by
  have plain : call function operand = .call function operand ∨ Stable (call function operand) := by
    unfold call
    split
    · split
      · exact .inr (stable_literal _)
      · exact .inl rfl
    · exact .inl rfl
  rcases plain with plain | folded
  · rw [plain]
    exact ⟨plain, stable⟩
  · exact folded

end Simplify

namespace Expr

variable {ν : Type} [Scalar ν]

/-- A simplified expression is stable. -/
theorem stable_simplify (distinct : Scalar.same (Scalar.one : ν) Scalar.zero = false)
    (expr : Expr ν) : Simplify.Stable expr.simplify := by
  induction expr with
  | literal value => exact Simplify.stable_literal value
  | symbol name => exact trivial
  | neg operand ih => exact Simplify.stable_neg ih
  | binary operation left right ihLeft ihRight =>
    cases operation with
    | add => exact (Simplify.stable_add_and_sub ihLeft ihRight).1
    | sub => exact (Simplify.stable_add_and_sub ihLeft ihRight).2
    | mul => exact Simplify.stable_mul ihLeft ihRight
    | div => exact Simplify.stable_div ihLeft ihRight
    | pow => exact Simplify.stable_pow distinct ihLeft ihRight
    | atan2 => exact Simplify.stable_atan2 ihLeft ihRight
  | call function argument ih => exact Simplify.stable_call function ih

/-- Simplifying once is enough. -/
theorem simplify_of_simplify (distinct : Scalar.same (Scalar.one : ν) Scalar.zero = false)
    (expr : Expr ν) : expr.simplify.simplify = expr.simplify :=
  Simplify.simplify_of_stable (stable_simplify distinct expr)

/-- A negative zero, an infinite and an undefined literal among signs that move
outwards. -/
def special : Expr Float :=
  .add
    (.sub (.literal (-0.0)) (.mul (.neg (.symbol "x")) (.neg (.div (.symbol "y") (.literal (1 / 0))))))
    (.mul (.literal (0 / 0)) (.symbol "z"))

/-- Simplifying special literals once is enough, although the negative zero and the
two signs of the product are rewritten. -/
theorem simplify_of_simplify_of_special :
    Scalar.same (Scalar.one : Float) Scalar.zero = false ∧
      special.simplify =
        .add (.neg (.mul (.symbol "x") (.div (.symbol "y") (.literal (1 / 0)))))
          (.mul (.literal (0 / 0)) (.symbol "z")) ∧
      special.simplify.simplify = special.simplify :=
  ⟨by decide, by decide, simplify_of_simplify (by decide) special⟩

end Expr

namespace Jacobian

variable {ν : Type} [Scalar ν]

/-- A stable expression that counts as zero is the literal zero. -/
theorem canonicalZero_of_stable {expr : Expr ν} (stable : Simplify.Stable expr) :
    canonicalZero expr = expr := by
  unfold canonicalZero
  rw [Simplify.simplify_of_stable stable, Bool.or_self]
  split
  · rename_i zero
    cases expr with
    | literal value =>
      have same : Scalar.same value Scalar.zero = true := zero
      have folded : Simplify.literal value = .literal value := stable
      rw [← folded, Simplify.literal, if_pos same]
    | _ => contradiction
  · rfl

/-- The derivative by a symbol that does not occur is zero. -/
theorem diff_of_not_contains {expr : Expr ν} {name : String}
    (absent : ¬expr.contains name = true) : expr.diff name = .zero := by
  rw [Expr.diff, Expr.derivative.eq_def, if_neg absent]
  exact Simplify.simplify_of_stable Simplify.stable_zero

/-- An entry of a Jacobian is the derivative of its output by its input. -/
theorem entry_symbolic (distinct : Scalar.same (Scalar.one : ν) Scalar.zero = false)
    (output : Expr ν) (name : String) : entry .symbolic output name = output.diff name := by
  have stable : Simplify.Stable (output.diff name) :=
    Expr.stable_simplify distinct (output.derivative name)
  unfold entry
  split
  · change canonicalZero (output.diff name).simplify = output.diff name
    rw [Simplify.simplify_of_stable stable, canonicalZero_of_stable stable]
  · rename_i absent
    exact (diff_of_not_contains absent).symm

end Jacobian

/-- The Jacobian by targets that are symbols holds derivatives. -/
theorem jacobian_of_targets {inputs : List (Expr Float)} {names : List String}
    (symbols : Jacobian.targets inputs = .ok names) (outputs : List (Expr Float)) :
    jacobian outputs inputs =
      .ok (.tabulate outputs names fun output name => output.diff name) := by
  have entries : Jacobian.entry .symbolic = fun (output : Expr Float) name => output.diff name := by
    funext output name
    exact Jacobian.entry_symbolic (by decide) output name
  rw [jacobian, jacobianWith, symbols, entries]
  rfl

end KalmanHeader
