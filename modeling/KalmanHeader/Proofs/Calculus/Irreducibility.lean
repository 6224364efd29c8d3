import KalmanHeader.Proofs.Calculus.Stability
import KalmanHeader.Proofs.Calculus.Symbols
import KalmanHeader.Proofs.Expr.Parts

/-!
# Simplified expressions are reduced

What simplification leaves is described here without its constructors: an expression
is reduced when none of its parts has operands that a rule of simplification speaks of.
A stable expression is reduced, and so is a simplified one. Among the parts without
symbols only those remain that hold an operation on literals which cannot be folded.
-/

namespace KalmanHeader

namespace Expr

variable {ν : Type}

/-- Whether the expression is nothing but a literal. -/
def isNumber (expr : Expr ν) : Bool :=
  expr.literal?.isSome

/-- Whether the expression is the opposite of another one. -/
def isOpposite : Expr ν → Bool
  | .neg _ => true
  | _ => false

/-- Whether the expression has no symbols. -/
def IsSymbolFree (expr : Expr ν) : Prop :=
  expr.SymbolsIn fun _ => False

variable [Scalar ν]

/-- Whether no rule of simplification applies to the node at the top. -/
def IsReduced : Expr ν → Prop
  | .literal value => Scalar.same value Scalar.zero → value = Scalar.zero
  | .symbol _ => True
  | .neg operand => ¬operand.isNumber ∧ ¬operand.isOpposite
  | .add left right =>
    ¬left.isZero ∧ ¬right.isZero ∧ ¬(left.isNumber ∧ right.isNumber) ∧ ¬right.isOpposite
  | .sub left right =>
    ¬left.isZero ∧ ¬right.isZero ∧ ¬(left.isNumber ∧ right.isNumber) ∧ ¬right.isOpposite ∧
      ¬left.same right
  | .mul left right =>
    (∀ operand ∈ [left, right],
      ¬operand.isZero ∧ ¬operand.isOne ∧ ¬operand.isLiteral (Scalar.negate Scalar.one)) ∧
      ¬(left.isNumber ∧ right.isNumber) ∧ ¬(left.isOpposite ∧ right.isOpposite)
  | .div left right =>
    ¬left.isZero ∧ ¬right.isOne ∧ (left.isNumber → right.isNumber → right.isZero)
  | .pow base exponent =>
    ¬exponent.isZero ∧ ¬exponent.isOne ∧ ¬base.isOne ∧
      ∀ value value', base = .literal value → exponent = .literal value' →
        ¬Scalar.isFinite (Scalar.operate .pow value value')
  | .atan2 y x => ¬(y.isNumber ∧ x.isNumber)
  | .call function argument =>
    ∀ value, argument = .literal value → ¬Scalar.isFinite (Scalar.apply function value)

/-- Whether the node at the top is an operation on literals without a value to fold it
to: a quotient by zero, or a power or a function whose value is not finite. -/
def IsStuck : Expr ν → Prop
  | .div (.literal _) (.literal value') => Scalar.same value' Scalar.zero
  | .pow (.literal value) (.literal value') =>
    ¬Scalar.isFinite (Scalar.operate .pow value value')
  | .call function (.literal value) => ¬Scalar.isFinite (Scalar.apply function value)
  | _ => False

/-- Only a literal compares equal to a number. -/
theorem isNumber_of_isLiteral {expr : Expr ν} {value : ν} (same : expr.isLiteral value) :
    expr.isNumber := by
  cases expr with
  | literal found => rfl
  | symbol | neg | binary | call => contradiction

omit [Scalar ν] in
/-- A number is a literal. -/
theorem isNumber_iff {expr : Expr ν} : expr.isNumber ↔ ∃ value, expr = .literal value := by
  cases expr <;> simp [isNumber, literal?]

end Expr

namespace Simplify

open KalmanHeader.Expr

variable {ν : Type} [Scalar ν] {operand left right : Expr ν} {operation : Operation}

section Shape

/-- A folded literal is a literal. -/
theorem isNumber_literal (value : ν) : (literal value).isNumber := by
  unfold literal
  split <;> rfl

/-- What is no number is not a folded literal. -/
theorem literal_ne {expr : Expr ν} (number : ¬expr.isNumber) (value : ν) :
    literal value ≠ expr := by
  rintro rfl
  exact number (isNumber_literal value)

omit [Scalar ν] in
/-- An operand is not the operation on it. -/
theorem ne_binary :
    left ≠ .binary operation left right ∧ right ≠ .binary operation left right := by
  constructor
  · intro same
    have sizes := congrArg sizeOf same
    simp at sizes
    omega
  · intro same
    have sizes := congrArg sizeOf same
    simp at sizes

/-- The opposite of what is no number is no operation on it. -/
theorem neg_ne_binary (number : ¬operand.isNumber) (other : Expr ν) :
    neg operand ≠ .binary operation other operand ∧
      neg operand ≠ .binary operation operand other := by
  cases operand with
  | literal value => exact absurd rfl number
  | neg inner =>
    constructor <;>
    · intro same
      have sizes := congrArg sizeOf same
      simp [neg] at sizes
      omega
  | symbol | binary | call => simp [neg]

end Shape

section Plain

variable (number : ¬right.isNumber) (opposite : ¬right.isOpposite)

include number opposite

/-- The opposite of an operand that is neither a number nor an opposite. -/
theorem neg_of_plain : neg right = .neg right := by
  cases right with
  | literal value => exact absurd rfl number
  | neg inner => exact absurd rfl opposite
  | symbol | binary | call => rfl

/-- The sum with an operand that is neither a number nor an opposite. -/
theorem add_of_plain : add left right = if left.isZero then right else .add left right := by
  cases right with
  | literal value => exact absurd rfl number
  | neg inner => exact absurd rfl opposite
  | symbol | binary | call => cases left <;> rfl

/-- The difference to an operand that is neither a number nor an opposite. -/
theorem sub_of_plain :
    sub left right =
      if left.isZero then .neg right else if left.same right then .zero else .sub left right := by
  rw [← neg_of_plain number opposite]
  cases right with
  | literal value => exact absurd rfl number
  | neg inner => exact absurd rfl opposite
  | symbol | binary | call => cases left <;> rfl

/-- The product of operands that are neither numbers nor opposites. -/
theorem mul_of_plain (number' : ¬left.isNumber) : mul left right = .mul left right := by
  have tests : ∀ value, right.isLiteral value = false := fun _ =>
    Bool.eq_false_iff.2 (mt isNumber_of_isLiteral number)
  have tests' : ∀ value, left.isLiteral value = false := fun _ =>
    Bool.eq_false_iff.2 (mt isNumber_of_isLiteral number')
  unfold mul
  split
  · exact absurd rfl number
  · exact absurd rfl opposite
  · simp [isZero, isOne, isMinusOne, tests, tests']

end Plain

section Nodes

/-- A stable opposite is reduced. -/
theorem isReduced_neg (node : neg operand = .neg operand) : (Expr.neg operand).IsReduced := by
  cases operand with
  | literal value => exact absurd node (literal_ne (by simp [isNumber, literal?]) _)
  | neg inner =>
    have sizes := congrArg sizeOf node
    simp [neg] at sizes
    omega
  | symbol | binary | call => simp [Expr.IsReduced, isNumber, literal?, isOpposite]

/-- A stable sum adds no opposite, and a stable difference subtracts none. -/
theorem not_isOpposite_of_stable (stable : Stable right) :
    (add left right = .add left right → ¬right.isOpposite) ∧
      (sub left right = .sub left right → ¬right.isOpposite) := by
  cases right with
  | neg operand =>
    -- The operand of a stable opposite is plain, so one step of the other operation is all.
    obtain ⟨number, opposite⟩ := isReduced_neg stable.1
    constructor
    · intro node
      rw [add, sub_of_plain number opposite] at node
      repeat' split at node
      all_goals simp [Expr.zero] at node
    · intro node
      have larger : operand ≠ .sub left (.neg operand) := by
        intro same
        have sizes := congrArg sizeOf same
        simp at sizes
        omega
      rw [sub, add_of_plain number opposite] at node
      repeat' split at node
      all_goals simp [Expr.zero, larger] at node
  | literal | symbol | binary | call => simp [isOpposite]

omit [Scalar ν] in
/-- Operands that are not both literals. -/
theorem not_isNumber_and_isNumber
    (apart : ∀ value value', left = .literal value → right = .literal value' → False) :
    ¬(left.isNumber ∧ right.isNumber) := by
  rintro ⟨number, number'⟩
  obtain ⟨value, rfl⟩ := isNumber_iff.1 number
  obtain ⟨value', rfl⟩ := isNumber_iff.1 number'
  exact apart value value' rfl rfl

/-- A stable sum is reduced. -/
theorem isReduced_add (node : add left right = .add left right) (stable : Stable right) :
    (Expr.add left right).IsReduced := by
  have opposite := (not_isOpposite_of_stable stable).1 node
  unfold add at node
  split at node
  · exact absurd node (literal_ne (by simp [isNumber, literal?]) _)
  · exact absurd rfl opposite
  · rename_i _ apart
    split at node
    · exact absurd node ne_binary.2
    · split at node
      · exact absurd node ne_binary.1
      · exact ⟨‹_›, ‹_›, not_isNumber_and_isNumber apart, opposite⟩

/-- A stable difference is reduced. -/
theorem isReduced_sub (node : sub left right = .sub left right) (stable : Stable right) :
    (Expr.sub left right).IsReduced := by
  have opposite := (not_isOpposite_of_stable stable).2 node
  unfold sub at node
  split at node
  · exact absurd node (literal_ne (by simp [isNumber, literal?]) _)
  · exact absurd rfl opposite
  · rename_i _ apart
    have numbers := not_isNumber_and_isNumber apart
    split at node
    · exact absurd node ne_binary.1
    · split at node
      · rename_i zero
        have number := isNumber_of_isLiteral zero
        exact absurd node (neg_ne_binary (fun number' => numbers ⟨number, number'⟩) left).1
      · split at node
        · simp [Expr.zero] at node
        · exact ⟨‹_›, ‹_›, numbers, opposite, ‹_›⟩

/-- A stable product does not have two opposites. -/
theorem not_isOpposite_of_mul (node : mul left right = .mul left right) (stableLeft : Stable left)
    (stableRight : Stable right) : ¬(left.isOpposite ∧ right.isOpposite) := by
  rintro ⟨opposite, opposite'⟩
  cases left with
  | neg operand =>
    cases right with
    | neg operand' =>
      -- What stands under the opposites is plain, so their product is not changed further.
      obtain ⟨number, opposite⟩ := isReduced_neg stableLeft.1
      obtain ⟨number', opposite'⟩ := isReduced_neg stableRight.1
      rw [mul, mul_of_plain number' opposite' number] at node
      have same : operand = .neg operand := (Expr.binary.inj node).2.1
      exact absurd rfl (same ▸ opposite)
    | literal | symbol | binary | call => contradiction
  | literal | symbol | binary | call => contradiction

/-- A stable product is reduced. -/
theorem isReduced_mul (node : mul left right = .mul left right) (stableLeft : Stable left)
    (stableRight : Stable right) : (Expr.mul left right).IsReduced := by
  have opposites := not_isOpposite_of_mul node stableLeft stableRight
  unfold mul at node
  split at node
  · exact absurd node (literal_ne (by simp [isNumber, literal?]) _)
  · exact absurd ⟨rfl, rfl⟩ opposites
  · rename_i apart _
    have numbers := not_isNumber_and_isNumber apart
    split at node
    · simp [Expr.zero] at node
    · rename_i noZero
      split at node
      · exact absurd node ne_binary.2
      · split at node
        · exact absurd node ne_binary.1
        · split at node
          · rename_i number
            have number := isNumber_of_isLiteral number
            exact absurd node (neg_ne_binary (fun number' => numbers ⟨number, number'⟩) left).1
          · split at node
            · rename_i number'
              have number' := isNumber_of_isLiteral number'
              exact absurd node (neg_ne_binary (fun number => numbers ⟨number, number'⟩) right).2
            · rw [Bool.or_eq_true, not_or] at noZero
              refine ⟨List.forall_mem_cons.2 ⟨⟨noZero.1, ‹_›, ‹_›⟩, ?_⟩, numbers, opposites⟩
              exact List.forall_mem_singleton.2 ⟨noZero.2, ‹_›, ‹_›⟩

/-- A stable quotient is reduced. -/
theorem isReduced_div (node : div left right = .div left right) :
    (Expr.div left right).IsReduced := by
  have neutral (node : divNeutral left right = .div left right) :
      ¬left.isZero ∧ ¬right.isOne := by
    unfold divNeutral at node
    split at node
    · simp [Expr.zero] at node
    · split at node
      · exact absurd node ne_binary.1
      · exact ⟨‹_›, ‹_›⟩
  unfold div at node
  split at node
  · split at node
    · rename_i divisor
      obtain ⟨zero, one⟩ := neutral node
      exact ⟨zero, one, fun _ _ => divisor⟩
    · exact absurd node (literal_ne (by simp [isNumber, literal?]) _)
  · rename_i apart
    obtain ⟨zero, one⟩ := neutral node
    exact ⟨zero, one, fun number number' =>
      absurd ⟨number, number'⟩ (not_isNumber_and_isNumber apart)⟩

/-- A stable power is reduced. -/
theorem isReduced_pow (node : pow left right = .pow left right) :
    (Expr.pow left right).IsReduced := by
  have neutral (node : powNeutral left right = .pow left right) :
      ¬right.isZero ∧ ¬right.isOne ∧ ¬left.isOne := by
    unfold powNeutral at node
    split at node
    · simp [Expr.one] at node
    · split at node
      · exact absurd node ne_binary.1
      · split at node
        · simp [Expr.one] at node
        · exact ⟨‹_›, ‹_›, ‹_›⟩
  unfold pow at node
  split at node
  · split at node
    · exact absurd node (literal_ne (by simp [isNumber, literal?]) _)
    · rename_i infinite
      obtain ⟨zero, one, base⟩ := neutral node
      refine ⟨zero, one, base, ?_⟩
      rintro _ _ ⟨⟩ ⟨⟩
      exact infinite
  · rename_i apart
    obtain ⟨zero, one, base⟩ := neutral node
    exact ⟨zero, one, base, fun value value' same same' => absurd same' (apart value value' same)⟩

/-- A stable angle is reduced. -/
theorem isReduced_atan2 (node : atan2 left right = .atan2 left right) :
    (Expr.atan2 left right).IsReduced := by
  unfold atan2 at node
  split at node
  · exact absurd node (literal_ne (by simp [isNumber, literal?]) _)
  · rename_i apart
    exact not_isNumber_and_isNumber apart

/-- A stable call is reduced. -/
theorem isReduced_call {function : Elementary}
    (node : call function operand = .call function operand) :
    (Expr.call function operand).IsReduced := by
  rintro value rfl finite
  rw [call, if_pos finite] at node
  exact literal_ne (by simp [isNumber, literal?]) _ node

/-- A stable expression is reduced. -/
theorem isReduced_of_stable {expr : Expr ν} (stable : Stable expr) : expr.IsReduced := by
  cases expr with
  | literal value =>
    intro zero
    have node : literal value = .literal value := stable
    rw [literal, if_pos zero] at node
    exact (Expr.literal.inj node).symm
  | symbol name => trivial
  | neg operand => exact isReduced_neg stable.1
  | binary operation left right =>
    obtain ⟨node, stableLeft, stableRight⟩ := stable
    cases operation with
    | add => exact isReduced_add node stableRight
    | sub => exact isReduced_sub node stableRight
    | mul => exact isReduced_mul node stableLeft stableRight
    | div => exact isReduced_div node
    | pow => exact isReduced_pow node
    | atan2 => exact isReduced_atan2 node
  | call function argument => exact isReduced_call stable.1

/-- The parts of a stable expression are stable. -/
theorem stable_of_mem_parts {expr part : Expr ν} (stable : Stable expr)
    (member : part ∈ expr.parts) : Stable part := by
  induction expr with
  | literal | symbol =>
    obtain rfl := List.mem_singleton.1 member
    exact stable
  | neg operand ih =>
    rcases List.mem_cons.1 member with rfl | member
    · exact stable
    · exact ih stable.2 member
  | binary operation left right ihLeft ihRight =>
    rcases List.mem_cons.1 member with rfl | member
    · exact stable
    · rcases List.mem_append.1 member with member | member
      · exact ihLeft stable.2.1 member
      · exact ihRight stable.2.2 member
  | call function argument ih =>
    rcases List.mem_cons.1 member with rfl | member
    · exact stable
    · exact ih stable.2 member

end Nodes

end Simplify

namespace Expr

variable {ν : Type} [Scalar ν] {expr : Expr ν}

/-- An operation on literals that is reduced is stuck. -/
theorem isStuck_binary {operation : Operation} {left right : Expr ν} (number : left.isNumber)
    (number' : right.isNumber) (reduced : (binary operation left right).IsReduced) :
    (binary operation left right).IsStuck := by
  obtain ⟨value, rfl⟩ := isNumber_iff.1 number
  obtain ⟨value', rfl⟩ := isNumber_iff.1 number'
  cases operation with
  | add => exact absurd ⟨rfl, rfl⟩ reduced.2.2.1
  | sub => exact absurd ⟨rfl, rfl⟩ reduced.2.2.1
  | mul => exact absurd ⟨rfl, rfl⟩ reduced.2.1
  | div => exact reduced.2.2 rfl rfl
  | pow => exact reduced.2.2.2 value value' rfl rfl
  | atan2 => exact absurd ⟨rfl, rfl⟩ reduced

/-- A reduced expression without symbols is a literal, or a part of it is stuck. -/
theorem isNumber_or_exists_isStuck (reduced : ∀ part ∈ expr.parts, part.IsReduced)
    (free : expr.IsSymbolFree) : expr.isNumber ∨ ∃ part ∈ expr.parts, part.IsStuck := by
  induction expr with
  | literal value => exact .inl rfl
  | symbol name => exact (free name (beq_self_eq_true name)).elim
  | neg operand ih =>
    obtain ⟨top, inner⟩ := List.forall_mem_cons.1 reduced
    rcases ih inner free with number | ⟨part, member, stuck⟩
    · exact absurd number top.1
    · exact .inr ⟨part, List.mem_cons_of_mem _ member, stuck⟩
  | binary operation left right ihLeft ihRight =>
    obtain ⟨top, inner⟩ := List.forall_mem_cons.1 reduced
    obtain ⟨innerLeft, innerRight⟩ := List.forall_mem_append.1 inner
    obtain ⟨freeLeft, freeRight⟩ := symbolsIn_binary.1 free
    rcases ihLeft innerLeft freeLeft with number | ⟨part, member, stuck⟩
    · rcases ihRight innerRight freeRight with number' | ⟨part, member, stuck⟩
      · exact .inr ⟨_, List.mem_cons_self, isStuck_binary number number' top⟩
      · exact .inr ⟨part, List.mem_cons_of_mem _ (List.mem_append_right _ member), stuck⟩
    · exact .inr ⟨part, List.mem_cons_of_mem _ (List.mem_append_left _ member), stuck⟩
  | call function argument ih =>
    obtain ⟨top, inner⟩ := List.forall_mem_cons.1 reduced
    rcases ih inner free with number | ⟨part, member, stuck⟩
    · obtain ⟨value, rfl⟩ := isNumber_iff.1 number
      exact .inr ⟨_, List.mem_cons_self, top value rfl⟩
    · exact .inr ⟨part, List.mem_cons_of_mem _ member, stuck⟩

/-- Every part of a simplified expression is reduced, and no literal in it is a negative
zero. A part without symbols is a literal, or else holds a stuck operation; so does what
an expression without symbols is simplified to. -/
theorem reduced_simplify (expr : Expr Float) :
    (∀ part ∈ expr.simplify.parts, part ≠ .literal (-0.0) ∧ part.IsReduced ∧
      (part.IsSymbolFree → part.isNumber ∨ ∃ inner ∈ part.parts, inner.IsStuck)) ∧
      (expr.IsSymbolFree →
        expr.simplify.isNumber ∨ ∃ part ∈ expr.simplify.parts, part.IsStuck) := by
  have stable : Simplify.Stable expr.simplify := stable_simplify (by decide) expr
  have reduced : ∀ part : Expr Float, Simplify.Stable part → ∀ inner ∈ part.parts,
      inner.IsReduced := fun part stable inner member =>
      Simplify.isReduced_of_stable (Simplify.stable_of_mem_parts stable member)
  constructor
  · intro part member
    have stablePart := Simplify.stable_of_mem_parts stable member
    have reducedPart := Simplify.isReduced_of_stable stablePart
    refine ⟨?_, reducedPart, isNumber_or_exists_isStuck (reduced part stablePart)⟩
    rintro rfl
    have positive : (-0.0 : Float) = 0.0 := reducedPart (by decide)
    exact absurd positive (by decide)
  · intro free
    exact isNumber_or_exists_isStuck (reduced _ stable) (symbolsIn_simplify free)

/-- A difference without symbols, where two signs stand before a quotient by zero. -/
def quotientByZero : Expr Float :=
  .sub (.literal 2) (.neg (.neg (.div (.literal 1) (.sub (.literal 1) (.literal 1)))))

/-- The quotient by zero is left as it is, while its divisor is folded and the signs are
gone. -/
theorem reduced_simplify_of_quotientByZero :
    quotientByZero.simplify = .sub (.literal 2) (.div (.literal 1) (.literal 0)) ∧
      Expr.div (.literal 1) (.literal 0) ∈ quotientByZero.simplify.parts ∧
      (Expr.div (.literal 1) (.literal 0) : Expr Float).IsReduced ∧
      quotientByZero.IsSymbolFree ∧ ∃ part ∈ quotientByZero.simplify.parts, part.IsStuck := by
  have simplified : quotientByZero.simplify =
      .sub (.literal 2) (.div (.literal 1) (.literal 0)) := by decide
  have member : Expr.div (.literal 1) (.literal 0) ∈ quotientByZero.simplify.parts := by
    simp [simplified, parts]
  have free : quotientByZero.IsSymbolFree := by
    simp [quotientByZero, IsSymbolFree, SymbolsIn, contains]
  obtain ⟨parts, whole⟩ := reduced_simplify quotientByZero
  refine ⟨simplified, member, (parts _ member).2.1, free, ?_⟩
  exact (whole free).resolve_left (by simp [simplified, isNumber, literal?])

end Expr

end KalmanHeader
