import KalmanHeader.Expr.Basic

/-!
# Parts of an expression

The subexpressions of an expression, and what is asked of the literals and the
symbols among them.
-/

namespace KalmanHeader.Expr

variable {ν : Type}

/-- The expression itself and the parts that it is made of, down to its leaves. -/
def parts : Expr ν → List (Expr ν)
  | .literal value => [.literal value]
  | .symbol name => [.symbol name]
  | .neg operand => .neg operand :: operand.parts
  | .binary operation left right =>
    .binary operation left right :: (left.parts ++ right.parts)
  | .call function argument => .call function argument :: argument.parts

/-- An expression is the first of its parts. -/
theorem self_mem_parts (expr : Expr ν) : expr ∈ expr.parts := by
  cases expr <;> simp [parts]

/-- Whether all literals of an expression are ordinary numbers. -/
def HasFiniteLiterals [Scalar ν] (expr : Expr ν) : Prop :=
  ∀ value, .literal value ∈ expr.parts → Scalar.isFinite value = true

/-- Literals are looked for among the parts. -/
instance [Scalar ν] (expr : Expr ν) : Decidable expr.HasFiniteLiterals :=
  decidable_of_iff (∀ part ∈ expr.parts, ∀ value ∈ part.literal?, Scalar.isFinite value = true)
    ⟨fun finite value member => finite _ member value rfl, fun finite part member value found => by
      cases part with
      | literal known =>
        obtain rfl : known = value := Option.some.inj found
        exact finite _ member
      | symbol | neg | binary | call => contradiction⟩

section Finite

variable [Scalar ν] {operand left right argument : Expr ν} {operation : Operation}
  {function : Elementary}

/-- A literal is finite if its number is. -/
@[simp]
theorem hasFiniteLiterals_literal {value : ν} :
    (literal value).HasFiniteLiterals ↔ Scalar.isFinite value = true := by
  simp [HasFiniteLiterals, parts]

/-- A symbol has no literals. -/
@[simp]
theorem hasFiniteLiterals_symbol {name : String} : (symbol name : Expr ν).HasFiniteLiterals := by
  simp [HasFiniteLiterals, parts]

/-- The literals of a negation are those of its operand. -/
@[simp]
theorem hasFiniteLiterals_neg : (neg operand).HasFiniteLiterals ↔ operand.HasFiniteLiterals := by
  simp [HasFiniteLiterals, parts]

/-- The literals of an operation are those of its operands. -/
@[simp]
theorem hasFiniteLiterals_binary :
    (binary operation left right).HasFiniteLiterals ↔
      left.HasFiniteLiterals ∧ right.HasFiniteLiterals := by
  simp [HasFiniteLiterals, parts, or_imp, forall_and]

/-- The literals of a call are those of its argument. -/
@[simp]
theorem hasFiniteLiterals_call :
    (call function argument).HasFiniteLiterals ↔ argument.HasFiniteLiterals := by
  simp [HasFiniteLiterals, parts]

end Finite

end KalmanHeader.Expr
