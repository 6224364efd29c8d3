import KalmanHeader.Proofs.C.Tokens
import KalmanHeader.Proofs.Expr.Derivation

/-!
# Reading expressions in C back

The tokens of an expression in C derive that expression in the grammar of
expression text: the parentheses stand exactly where the grammar needs them. Only
two things are lost. A negation of a literal is read as the literal of the opposite
number, and a zero loses its sign.
-/

namespace KalmanHeader

open Grammar

/-- The expression with every negation of a literal replaced by the literal of the
opposite number, from the leaves to the root. -/
def Expr.collapseNegations {ν : Type} [Scalar ν] : Expr ν → Expr ν
  | .literal value => .literal value
  | .symbol name => .symbol name
  | .neg operand =>
    match operand.collapseNegations with
    | .literal value => .literal (Scalar.negate value)
    | collapsed => .neg collapsed
  | .binary operation left right =>
    .binary operation left.collapseNegations right.collapseNegations
  | .call function argument => .call function argument.collapseNegations

/-- A minus sign is read as collapsing the negation that it is written for. -/
theorem Expr.collapseNegations_neg {ν : Type} [Scalar ν] (operand : Expr ν) :
    (Expr.neg operand).collapseNegations = opposite operand.collapseNegations := by
  rw [collapseNegations]
  unfold opposite
  rfl

namespace C

open Number Token

/-- The number that the tokens of a literal are read as. -/
def rereadLiteral (value : Float) : Float :=
  if value < 0.0 then (ofSignBits false (magnitudeBits value)).neg
  else ofSignBits false (magnitudeBits value)

/-- The expression that the tokens of an expression are read as. -/
def reread : Expr Float → Expr Float
  | .literal value => .literal (rereadLiteral value)
  | .symbol name => .symbol name
  | .neg operand => opposite (reread operand)
  | .binary operation left right => .binary operation (reread left) (reread right)
  | .call function argument => .call function (reread argument)

/-- The tokens of a symbol that is written as its name. -/
def wordTokens (name : String) : List (Token Float) :=
  [.word name]

/-- The rule of the grammar for a written form that holds together that strongly. -/
def rankOfStrength : Nat → Rank
  | 0 | 1 => .chain .sum
  | 2 => .chain .product
  | 3 => .signed
  | _ => .primary

/-- How strongly the written form of an expression holds together where a sign in
front counts as a negation. -/
def grip (expr : Expr Float) : Nat :=
  if isSigned expr then 3 else strength expr

variable {tokens : List (Token Float)} {expr value : Expr Float}

/-- What derives by a tight rule derives by a loose one. -/
theorem derives_loosen {tight : Nat} (loose : Nat) (looser : loose ≤ tight)
    (derives : Derives (rankOfStrength tight) tokens value) :
    Derives (rankOfStrength loose) tokens value := by
  induction looser with
  | refl => exact derives
  | @step tight _ ih =>
    refine ih ?_
    match tight, derives with
    | 0, derives => exact derives
    | 1, derives => exact .operand derives
    | 2, derives => exact .operand derives
    | 3, derives => exact .unsigned (.base derives)
    | _ + 4, derives => exact derives

/-- An operand is in parentheses unless its written form holds together strongly
enough by itself. -/
theorem derives_operand (needed : Nat) (possible : needed ≤ 4)
    (derives : Derives (rankOfStrength (grip expr)) tokens value) :
    Derives (rankOfStrength needed)
      (operandTokens (isSigned expr || decide (strength expr < needed)) tokens) value := by
  by_cases enclose : (isSigned expr || decide (strength expr < needed)) = true
  · have whole : Derives (.chain .sum) tokens value := derives_loosen 0 (Nat.zero_le _) derives
    rw [enclose, operandTokens, if_pos rfl]
    exact derives_loosen needed possible (.enclosed whole)
  · have enough := enclose
    rw [Bool.or_eq_true, not_or, decide_eq_true_eq, Nat.not_lt] at enough
    obtain ⟨unsigned, strong⟩ := enough
    rw [Bool.eq_false_of_not_eq_true enclose, operandTokens, if_neg Bool.false_ne_true]
    rw [grip, if_neg unsigned] at derives
    exact derives_loosen needed strong derives

/-- The tokens of a finite literal derive it. -/
theorem derives_literalTokens {value : Float} (finite : value.isFinite = true) :
    Derives (rankOfStrength (grip (.literal value))) (literalTokens value)
      (.literal (rereadLiteral value)) := by
  have signed : isSigned (.literal value) = decide (value < 0.0) := by
    rw [isSigned, finite, Bool.and_true]
  rw [grip, signed, literalTokens, rereadLiteral]
  simp only [decide_eq_true_eq]
  split
  · exact .minus (.unsigned (.base (.number _)))
  · exact .number _

/-- The name of a function in C is read as that function. -/
theorem callOf_cName (function : Elementary) (argument : Expr Float) :
    callOf function.cName [argument] = .ok (.call function argument) := by
  cases function <;> rfl

/-- The name of an operation in C is read as that operation. -/
theorem callOf_callName {operation : Operation} (call : operator? operation = none)
    (left right : Expr Float) :
    callOf (callName operation) [left, right] = .ok (.binary operation left right) := by
  cases operation <;> first | rfl | contradiction

/-- The strength of an operator is the level that its character belongs to. -/
theorem level_of_operator? {operation : Operation} {between : String} {strength : Nat}
    (known : operator? operation = some (between, strength)) :
    ∃ level : Level, level.operation? (operatorCharacter operation) = some operation ∧
      rankOfStrength strength = .chain level ∧
      rankOfStrength (strength + 1) = level.operandRank ∧ strength + 1 ≤ 4 := by
  cases operation with
  | add | sub =>
    obtain ⟨rfl, rfl⟩ := Prod.mk.inj (Option.some.inj known)
    exact ⟨.sum, rfl, rfl, rfl, by decide⟩
  | mul | div =>
    obtain ⟨rfl, rfl⟩ := Prod.mk.inj (Option.some.inj known)
    exact ⟨.product, rfl, rfl, rfl, by decide⟩
  | pow | atan2 => contradiction

/-- An operation holds together as strongly as its operator, and a call as strongly
as anything. -/
theorem grip_binary {operation : Operation} {left right : Expr Float} :
    grip (.binary operation left right) = ((operator? operation).map Prod.snd).getD 4 := by
  cases operation <;> rfl

/-- The tokens of an expression derive what it is read as. -/
theorem derives_expressionTokens (finite : expr.HasFiniteLiterals) :
    Derives (rankOfStrength (grip expr)) (expressionTokens wordTokens expr) (reread expr) := by
  induction expr with
  | literal value => exact derives_literalTokens (Expr.hasFiniteLiterals_literal.1 finite)
  | symbol name => exact .symbol name
  | neg operand ih =>
    have operand := derives_operand 3 (by decide)
      (ih (Expr.hasFiniteLiterals_neg.1 finite))
    exact .minus operand
  | binary operation left right ihLeft ihRight =>
    obtain ⟨finiteLeft, finiteRight⟩ := Expr.hasFiniteLiterals_binary.1 finite
    rw [grip_binary, expressionTokens]
    cases known : operator? operation with
    | some operator =>
      obtain ⟨between, strength⟩ := operator
      obtain ⟨level, operator, chain, operand, possible⟩ := level_of_operator? known
      have left := derives_operand strength (Nat.le_of_succ_le possible) (ihLeft finiteLeft)
      have right := derives_operand (strength + 1) possible (ihRight finiteRight)
      rw [chain] at left
      rw [operand] at right
      simp only [Nat.lt_succ_iff] at right
      simp only [Option.map_some, Option.getD_some, chain]
      exact .link left operator right
    | none =>
      have left := derives_loosen 0 (Nat.zero_le _) (ihLeft finiteLeft)
      have right := derives_loosen 0 (Nat.zero_le _) (ihRight finiteRight)
      exact .operation left right (callOf_callName known _ _)
  | call function argument ih =>
    have argument := derives_loosen 0 (Nat.zero_le _) (ih (Expr.hasFiniteLiterals_call.1 finite))
    exact .function argument (callOf_cName function _)

/-- The tokens of an expression are read as one expression. -/
theorem ofTokens_expressionTokens (finite : expr.HasFiniteLiterals) :
    Expr.ofTokens (expressionTokens wordTokens expr) = .ok (reread expr) :=
  Expr.ofTokens_of_derives
    (derives_loosen 0 (Nat.zero_le _) (derives_expressionTokens finite))

section Same

/-- Reading a finite literal changes at most the sign of a zero. -/
theorem beq_rereadLiteral {value : Float} (finite : value.isFinite = true) :
    (rereadLiteral value).isFinite = true ∧ (rereadLiteral value).beq value = true := by
  have small := magnitudeBits_lt finite
  rw [eq_ofSignBits finite]
  generalize isNegative value = negative
  generalize magnitudeBits value = bits at small
  have signed : ofSignBits negative bits < 0.0 ↔ (negative && decide (bits ≠ 0)) = true := by
    rw [← lt_zero_ofSignBits small, decide_eq_true_iff]
  rw [rereadLiteral, magnitudeBits_ofSignBits small]
  split
  · rename_i below
    obtain ⟨rfl, _⟩ := Bool.and_eq_true_iff.1 (signed.1 below)
    rw [neg_ofSignBits small]
    exact ⟨isFinite_ofSignBits small, beq_self (isFinite_ofSignBits small)⟩
  · rename_i notBelow
    refine ⟨isFinite_ofSignBits small, (beq_ofSignBits small small).2 ?_⟩
    rw [signed] at notBelow
    cases negative with
    | false => exact .inl ⟨rfl, rfl⟩
    | true =>
      have zero : bits = 0 := by simpa using notBelow
      exact .inr ⟨zero, zero⟩

/-- The opposite of an expression with finite literals has finite literals. -/
theorem hasFiniteLiterals_opposite (finite : expr.HasFiniteLiterals) :
    (opposite expr).HasFiniteLiterals := by
  cases expr with
  | literal value =>
    exact Expr.hasFiniteLiterals_literal.2 (isFinite_neg (Expr.hasFiniteLiterals_literal.1 finite))
  | symbol | neg | binary | call => exact Expr.hasFiniteLiterals_neg.2 finite

/-- The opposites of expressions that are the same are the same. -/
theorem same_opposite (finite : expr.HasFiniteLiterals) (finite' : value.HasFiniteLiterals)
    (same : expr.same value = true) : (opposite expr).same (opposite value) = true := by
  cases expr <;> cases value <;> first | contradiction | exact same | skip
  exact beq_neg (Expr.hasFiniteLiterals_literal.1 finite) (Expr.hasFiniteLiterals_literal.1 finite')
    same

/-- Collapsing negations keeps literals finite. -/
theorem hasFiniteLiterals_collapseNegations (finite : expr.HasFiniteLiterals) :
    expr.collapseNegations.HasFiniteLiterals := by
  induction expr with
  | literal | symbol => exact finite
  | neg operand ih =>
    rw [Expr.collapseNegations_neg]
    exact hasFiniteLiterals_opposite (ih (Expr.hasFiniteLiterals_neg.1 finite))
  | binary operation left right ihLeft ihRight =>
    obtain ⟨left, right⟩ := Expr.hasFiniteLiterals_binary.1 finite
    exact Expr.hasFiniteLiterals_binary.2 ⟨ihLeft left, ihRight right⟩
  | call function argument ih =>
    exact Expr.hasFiniteLiterals_call.2 (ih (Expr.hasFiniteLiterals_call.1 finite))

/-- What an expression is read as has finite literals and is the expression with its
negations collapsed. -/
theorem same_reread (finite : expr.HasFiniteLiterals) :
    (reread expr).HasFiniteLiterals ∧ (reread expr).same expr.collapseNegations = true := by
  induction expr with
  | literal value =>
    obtain ⟨finite, same⟩ := beq_rereadLiteral (Expr.hasFiniteLiterals_literal.1 finite)
    exact ⟨Expr.hasFiniteLiterals_literal.2 finite, same⟩
  | symbol name => exact ⟨finite, beq_self_eq_true name⟩
  | neg operand ih =>
    have finite' := Expr.hasFiniteLiterals_neg.1 finite
    obtain ⟨finite, same⟩ := ih finite'
    rw [Expr.collapseNegations_neg]
    exact ⟨hasFiniteLiterals_opposite finite,
      same_opposite finite (hasFiniteLiterals_collapseNegations finite') same⟩
  | binary operation left right ihLeft ihRight =>
    obtain ⟨left, right⟩ := Expr.hasFiniteLiterals_binary.1 finite
    obtain ⟨finiteLeft, sameLeft⟩ := ihLeft left
    obtain ⟨finiteRight, sameRight⟩ := ihRight right
    refine ⟨Expr.hasFiniteLiterals_binary.2 ⟨finiteLeft, finiteRight⟩, ?_⟩
    rw [reread, Expr.collapseNegations, Expr.same, sameLeft, sameRight, beq_self_eq_true]
    rfl
  | call function argument ih =>
    obtain ⟨finite, same⟩ := ih (Expr.hasFiniteLiterals_call.1 finite)
    refine ⟨Expr.hasFiniteLiterals_call.2 finite, ?_⟩
    rw [reread, Expr.collapseNegations, Expr.same, same, beq_self_eq_true]
    rfl

end Same

/-- The text of an expression in C whose literals are finite and whose symbols are
words parses to that expression, with every negation of a literal replaced by the
literal of the opposite number. -/
theorem parse_expression (finite : expr.HasFiniteLiterals)
    (words : ∀ name, expr.contains name → isWord name.toList) :
    ∃ read, Expr.parse (expression plainNaming expr) = .ok read ∧
      read.same expr.collapseNegations = true := by
  have spells : Spells (expression plainNaming expr).toList (expressionTokens wordTokens expr) :=
    spells_expression finite fun name found => spells_word (words name found)
  refine ⟨reread expr, ?_, (same_reread finite).2⟩
  rw [Expr.parse, tokenize_of_spells spells]
  exact ofTokens_expressionTokens finite

/-- Two minus signs, a right operand in parentheses and a negative literal. -/
theorem parse_expression_of_difference :
    ∃ read, Expr.parse (expression plainNaming
        (.sub (.symbol "a") (.sub (.neg (.symbol "b")) (.neg (.mul (.literal 2.5) (.literal (-0.5))))))) =
          .ok read ∧
      read.same (Expr.collapseNegations
        (.sub (.symbol "a") (.sub (.neg (.symbol "b"))
          (.neg (.mul (.literal 2.5) (.literal (-0.5))))))) = true := by
  have finite : (Scalar.isFinite (2.5 : Float) = true) ∧ Scalar.isFinite (-0.5 : Float) = true := by
    decide
  refine parse_expression (by simpa using finite) fun name found => ?_
  simp only [Expr.contains, Bool.or_eq_true, beq_iff_eq, Bool.false_eq_true, or_false] at found
  rcases found with rfl | rfl <;> decide

end C

end KalmanHeader
