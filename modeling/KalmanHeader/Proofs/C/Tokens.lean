import KalmanHeader.Proofs.C.Text
import KalmanHeader.Proofs.Expr.Spelling

/-!
# The tokens of an expression in C

The written form of an expression as a list of tokens, with parentheses where the
text has them, and the proof that the text spells these tokens. How symbols are
written is left open: a naming comes with the tokens that its names spell.
-/

namespace KalmanHeader.C

open Number Token

/-- The tokens of a literal. A minus sign is a token of its own. -/
def literalTokens (value : Float) : List (Token Float) :=
  if value < 0.0 then [.operator '-', .number (ofSignBits false (magnitudeBits value))]
  else [.number (ofSignBits false (magnitudeBits value))]

/-- The tokens of an operand, in parentheses if `enclose`. -/
def operandTokens (enclose : Bool) (tokens : List (Token Float)) : List (Token Float) :=
  if enclose then .openParen :: (tokens ++ [.closeParen]) else tokens

/-- The tokens of an expression, where those of each symbol are given. -/
def expressionTokens (symbolTokens : String → List (Token Float)) :
    Expr Float → List (Token Float)
  | .literal value => literalTokens value
  | .symbol name => symbolTokens name
  | .neg operand =>
    .operator '-' ::
      operandTokens (isSigned operand || strength operand < 3)
        (expressionTokens symbolTokens operand)
  | .binary operation left right =>
    match operator? operation with
    | some (_, level) =>
      operandTokens (isSigned left || strength left < level) (expressionTokens symbolTokens left) ++
        .operator (operatorCharacter operation) ::
          operandTokens (isSigned right || strength right ≤ level)
            (expressionTokens symbolTokens right)
    | none =>
      .word (callName operation) :: .openParen ::
        (expressionTokens symbolTokens left ++
          .comma :: (expressionTokens symbolTokens right ++ [.closeParen]))
  | .call function argument =>
    .word function.cName :: .openParen :: (expressionTokens symbolTokens argument ++ [.closeParen])

section Literals

/-- Numbers in C are readable. -/
theorem readable_numberStyle : numberStyle.Readable :=
  ⟨.inr rfl, .inl rfl⟩

variable {negative : Bool} {bits : Nat}

/-- The tokens of a finite literal. -/
theorem literalTokens_ofSignBits (finite : bits < infinityBits) :
    literalTokens (ofSignBits negative bits) =
      if negative && decide (bits ≠ 0) then [.operator '-', .number (ofSignBits false bits)]
      else [.number (ofSignBits false bits)] := by
  rw [literalTokens, magnitudeBits_ofSignBits finite, ← lt_zero_ofSignBits finite]
  simp only [decide_eq_true_eq]

/-- The text of a finite literal spells its tokens. -/
theorem spells_number {value : Float} (finite : value.isFinite = true) :
    Spells (number value).toList (literalTokens value) := by
  have small := magnitudeBits_lt finite
  rw [eq_ofSignBits finite]
  generalize isNegative value = negative
  generalize magnitudeBits value = bits at small
  have digits := spells_shortest readable_numberStyle small
  rw [number, literalTokens_ofSignBits small, beq_zero_ofSignBits small]
  by_cases zero : bits = 0
  · obtain rfl := zero
    rw [decide_eq_true rfl, decide_eq_false (not_not_intro rfl), Bool.and_false, if_pos rfl,
      if_neg Bool.false_ne_true]
    exact digits
  · rw [decide_eq_false zero, decide_eq_true zero, Bool.and_true, if_neg Bool.false_ne_true,
      Style.toList_text_ofSignBits _ small]
    cases negative with
    | false => exact digits
    | true => exact spells_minus digits

end Literals

section Expressions

variable {text text' : List Char} {tokens tokens' : List (Token Float)}

/-- The characters of an operand spell its tokens. -/
theorem spells_operand (enclose : Bool) (spells : Spells text tokens) :
    Spells (operandCharacters enclose text) (operandTokens enclose tokens) := by
  cases enclose with
  | false => exact spells
  | true => exact spells_enclosed spells

/-- Two operands with the operator between them. -/
theorem spells_infix {operation : Operation} {between : String} {level : Nat}
    (known : operator? operation = some (between, level)) (left : Spells text tokens)
    (right : Spells text' tokens') :
    Spells (text ++ ' ' :: operatorCharacter operation :: ' ' :: text')
      (tokens ++ .operator (operatorCharacter operation) :: tokens') := by
  refine spells_between ?_ left right
  cases operation with
  | add | sub | mul | div => decide
  | pow | atan2 => contradiction

/-- The text of an expression spells its tokens. -/
theorem spells_expression {naming : Naming} {symbolTokens : String → List (Token Float)}
    {expr : Expr Float} (finite : expr.HasFiniteLiterals)
    (named : ∀ name, expr.contains name → Spells (naming name).toList (symbolTokens name)) :
    Spells (expression naming expr).toList (expressionTokens symbolTokens expr) := by
  induction expr with
  | literal value => exact spells_number (Expr.hasFiniteLiterals_literal.1 finite)
  | symbol name => exact named name (by simp [Expr.contains])
  | neg operand ih =>
    rw [toList_neg]
    exact spells_minus (spells_operand _ (ih (Expr.hasFiniteLiterals_neg.1 finite) named))
  | binary operation left right ihLeft ihRight =>
    obtain ⟨finiteLeft, finiteRight⟩ := Expr.hasFiniteLiterals_binary.1 finite
    have left := ihLeft finiteLeft fun name found => named name (by simp [Expr.contains, found])
    have right := ihRight finiteRight fun name found => named name (by simp [Expr.contains, found])
    rw [expressionTokens]
    cases known : operator? operation with
    | some operator =>
      rw [toList_between known]
      exact spells_infix known (spells_operand _ left) (spells_operand _ right)
    | none =>
      rw [toList_operation known]
      simpa only [List.append_assoc, List.cons_append] using
        spells_call (isWord_callName known) (spells_arguments left right)
  | call function argument ih =>
    rw [toList_call]
    exact spells_call (isWord_cName function) (ih (Expr.hasFiniteLiterals_call.1 finite) named)

end Expressions

end KalmanHeader.C
