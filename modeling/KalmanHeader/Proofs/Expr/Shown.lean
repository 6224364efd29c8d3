import KalmanHeader.Expr.Display
import KalmanHeader.Proofs.C.Reparse

/-!
# Reading a shown expression back

Every operation is shown in parentheses, but a negation and a negative literal are shown
with a bare minus sign in front. The grammar takes such a sign to the whole power that it
stands before, and to a literal right behind it. So what is shown is read as the expression
itself unless one of its powers has a base with a sign.
-/

namespace KalmanHeader.Expr

open Grammar Number Token

/-- Whether an expression is shown with a minus sign in front. -/
def isShownSigned : Expr Float → Bool
  | .neg _ => true
  | .literal value => isNegative value
  | _ => false

/-- The tokens of an expression, where those behind its sign are given. -/
def withSign (expr : Expr Float) (tokens : List (Token Float)) : List (Token Float) :=
  if expr.isShownSigned then .operator '-' :: tokens else tokens

/-- The tokens that an expression is shown as, without the sign in front of them. -/
def unsignedTokens : Expr Float → List (Token Float)
  | .literal value => [.number (ofSignBits false (magnitudeBits value))]
  | .symbol name => [.word name]
  | .neg operand => .openParen :: (operand.withSign operand.unsignedTokens ++ [.closeParen])
  | .binary operation left right =>
    match operation.sign? with
    | some sign =>
      .openParen :: ((left.withSign left.unsignedTokens ++
        .operator sign :: right.withSign right.unsignedTokens) ++ [.closeParen])
    | none =>
      .word "atan2" :: .openParen :: ((left.withSign left.unsignedTokens ++
        .comma :: right.withSign right.unsignedTokens) ++ [.closeParen])
  | .call function argument =>
    .word function.cName :: .openParen ::
      (argument.withSign argument.unsignedTokens ++ [.closeParen])

/-- The tokens that an expression is shown as. -/
def shownTokens (expr : Expr Float) : List (Token Float) :=
  expr.withSign expr.unsignedTokens

/-- What is read behind the sign of an expression, with the sign. -/
def behindSign (expr value : Expr Float) : Expr Float :=
  if expr.isShownSigned then opposite value else value

/-- The expression that the tokens of an expression are read as, without the sign in front
of them. The sign of the base of a power belongs to the power. -/
def unsignedReading : Expr Float → Expr Float
  | .literal value => .literal (ofSignBits false (magnitudeBits value))
  | .symbol name => .symbol name
  | .neg operand => operand.behindSign operand.unsignedReading
  | .binary .pow base exponent =>
    base.behindSign (.pow base.unsignedReading (exponent.behindSign exponent.unsignedReading))
  | .binary operation left right =>
    .binary operation (left.behindSign left.unsignedReading)
      (right.behindSign right.unsignedReading)
  | .call function argument => .call function (argument.behindSign argument.unsignedReading)

/-- The expression that an expression is read as when it is shown. -/
def shownReading (expr : Expr Float) : Expr Float :=
  expr.behindSign expr.unsignedReading

variable {expr operand left right argument base exponent value : Expr Float}
  {operation : Operation} {function : Elementary} {tokens : List (Token Float)}

section Nodes

/-- The tokens of a negation. -/
theorem shownTokens_neg :
    (neg operand).shownTokens =
      .operator '-' :: .openParen :: (operand.shownTokens ++ [.closeParen]) :=
  rfl

/-- The tokens of an operation that is shown with its sign. -/
theorem shownTokens_between {sign : Char} (known : operation.sign? = some sign) :
    (binary operation left right).shownTokens =
      .openParen :: ((left.shownTokens ++ .operator sign :: right.shownTokens) ++ [.closeParen]) := by
  cases operation <;> cases known <;> rfl

/-- The tokens of an operation that is shown as a call. -/
theorem shownTokens_operation (known : operation.sign? = none) :
    (binary operation left right).shownTokens =
      .word "atan2" :: .openParen ::
        ((left.shownTokens ++ .comma :: right.shownTokens) ++ [.closeParen]) := by
  cases operation <;> cases known
  rfl

/-- The tokens of a call. -/
theorem shownTokens_call :
    (call function argument).shownTokens =
      .word function.cName :: .openParen :: (argument.shownTokens ++ [.closeParen]) :=
  rfl

/-- A negation is read as the opposite of what its operand is read as. -/
theorem shownReading_neg : (neg operand).shownReading = opposite operand.shownReading :=
  rfl

/-- A power is read behind the sign of its base. -/
theorem shownReading_pow :
    (pow base exponent).shownReading =
      base.behindSign (.pow base.unsignedReading exponent.shownReading) :=
  rfl

/-- Any other operation is read with its operands. -/
theorem shownReading_binary (noPower : operation ≠ .pow) :
    (binary operation left right).shownReading =
      .binary operation left.shownReading right.shownReading := by
  cases operation <;> first | contradiction | rfl

/-- A call is read with its argument. -/
theorem shownReading_call :
    (call function argument).shownReading = .call function argument.shownReading :=
  rfl

/-- Without a sign there is nothing to be taken to anything else. -/
theorem behindSign_of_unsigned (unsigned : expr.isShownSigned = false) :
    expr.behindSign value = value := by
  rw [behindSign, unsigned, if_neg Bool.false_ne_true]

end Nodes

section Text

/-- The text of a finite literal spells its sign and its digits. -/
theorem spells_literal {value : Float} (finite : value.isFinite = true) :
    Spells (literal value).display.toList (literal value).shownTokens := by
  have small := magnitudeBits_lt finite
  have readable : plainStyle.Readable := ⟨.inl rfl, .inl rfl⟩
  have digits := spells_shortest readable small
  rw [display, shownTokens, withSign, isShownSigned, unsignedTokens]
  rw [eq_ofSignBits finite]
  generalize isNegative value = negative
  generalize magnitudeBits value = bits at small digits
  rw [isNegative_ofSignBits small, magnitudeBits_ofSignBits small,
    Style.toList_text_ofSignBits _ small]
  cases negative with
  | false => exact digits
  | true => exact spells_minus digits

/-- The characters of a negation. -/
theorem toList_display_neg :
    (neg operand).display.toList = '-' :: '(' :: (operand.display.toList ++ [')']) := by
  simp [display]

/-- The characters of an operation that is shown with its sign. -/
theorem toList_display_between {sign : Char} (known : operation.sign? = some sign) :
    (binary operation left right).display.toList =
      '(' :: ((left.display.toList ++ ' ' :: sign :: ' ' :: right.display.toList) ++ [')']) := by
  simp [display, known]

/-- The characters of an operation that is shown as a call. -/
theorem toList_display_operation (known : operation.sign? = none) :
    (binary operation left right).display.toList =
      "atan2".toList ++
        '(' :: ((left.display.toList ++ ',' :: ' ' :: right.display.toList) ++ [')']) := by
  simp [display, known]

/-- The characters of a call. -/
theorem toList_display_call :
    (call function argument).display.toList =
      function.cName.toList ++ '(' :: (argument.display.toList ++ [')']) := by
  simp [display]

/-- The signs of operations are operators. -/
theorem mem_of_sign? {sign : Char} (known : operation.sign? = some sign) :
    sign ∈ ['+', '-', '*', '/', '^'] := by
  cases operation <;> cases known <;> decide

/-- The text that an expression is shown as spells its tokens. -/
theorem spells_display (finite : expr.HasFiniteLiterals)
    (words : ∀ name, expr.contains name → C.isWord name.toList) :
    Spells expr.display.toList expr.shownTokens := by
  induction expr with
  | literal value => exact spells_literal (hasFiniteLiterals_literal.1 finite)
  | symbol name => exact spells_word (words name (by simp [contains]))
  | neg operand ih =>
    rw [toList_display_neg, shownTokens_neg]
    exact spells_minus (spells_enclosed (ih (hasFiniteLiterals_neg.1 finite) words))
  | binary operation left right ihLeft ihRight =>
    obtain ⟨finiteLeft, finiteRight⟩ := hasFiniteLiterals_binary.1 finite
    have left := ihLeft finiteLeft fun name found => words name (by simp [contains, found])
    have right := ihRight finiteRight fun name found => words name (by simp [contains, found])
    cases known : operation.sign? with
    | some sign =>
      rw [toList_display_between known, shownTokens_between known]
      exact spells_enclosed (spells_between (mem_of_sign? known) left right)
    | none =>
      rw [toList_display_operation known, shownTokens_operation known]
      exact spells_call (by decide) (spells_arguments left right)
  | call function argument ih =>
    rw [toList_display_call, shownTokens_call]
    exact spells_call (C.isWord_cName function) (ih (hasFiniteLiterals_call.1 finite) words)

end Text

section Derivations

/-- A sign in front of a power is read with the power. -/
theorem derives_withSign (expr : Expr Float) (power : Derives .power tokens value) :
    Derives .signed (expr.withSign tokens) (expr.behindSign value) := by
  unfold withSign behindSign
  split
  · exact .minus (.unsigned power)
  · exact .unsigned power

/-- A signed operand is a sum. -/
theorem derives_sum (signed : Derives .signed tokens value) : Derives (.chain .sum) tokens value :=
  .operand (.operand signed)

/-- Two signed operands with an operator other than the caret between them. -/
theorem derives_between (level : Level) {character : Char} {tokens' : List (Token Float)}
    (known : level.operation? character = some operation) (left' : Derives .signed tokens left)
    (right' : Derives .signed tokens' right) :
    Derives (.chain .sum) (tokens ++ .operator character :: tokens')
      (.binary operation left right) := by
  cases level with
  | sum => exact .link (derives_sum left') known (.operand right')
  | product => exact .operand (.link (.operand left') known right')

/-- The sign of what stands first is in front of everything. -/
theorem withSign_append (tokens' : List (Token Float)) :
    expr.withSign tokens ++ tokens' = expr.withSign (tokens ++ tokens') := by
  unfold withSign
  split
  · rfl
  · rfl

/-- Without its sign, what is shown is a primary. -/
theorem derives_unsignedTokens (expr : Expr Float) :
    Derives .primary expr.unsignedTokens expr.unsignedReading := by
  induction expr with
  | literal value => exact .number _
  | symbol name => exact .symbol name
  | neg operand ih => exact .enclosed (derives_sum (derives_withSign _ (.base ih)))
  | binary operation left right ihLeft ihRight =>
    have left' := derives_withSign left (.base ihLeft)
    have right' := derives_withSign right (.base ihRight)
    cases operation with
    | add | sub => exact .enclosed (derives_between .sum rfl left' right')
    | mul | div => exact .enclosed (derives_between .product rfl left' right')
    | pow =>
      -- the sign of the base is taken to the power
      have power := derives_withSign left (.raised ihLeft right')
      rw [← withSign_append] at power
      exact .enclosed (derives_sum power)
    | atan2 =>
      change Derives .primary (.word "atan2" :: .openParen :: ((_ ++ .comma :: _) ++ [.closeParen])) _
      rw [List.append_assoc, List.cons_append]
      exact .operation (derives_sum left') (derives_sum right')
        (@C.callOf_callName .atan2 rfl _ _)
  | call function argument ih =>
    exact .function (derives_sum (derives_withSign _ (.base ih))) (C.callOf_cName function _)

/-- What an expression is shown as is read, as an expression that need not be the same. -/
theorem parse_display (finite : expr.HasFiniteLiterals)
    (words : ∀ name, expr.contains name → C.isWord name.toList) :
    parse expr.display = .ok expr.shownReading := by
  rw [parse, tokenize_of_spells (spells_display finite words)]
  exact ofTokens_of_derives (derives_sum (derives_withSign expr (.base (derives_unsignedTokens expr))))

end Derivations

section Faithfulness

/-- Whether no power has a base that is shown with a minus sign in front. -/
def HasUnsignedBases (expr : Expr Float) : Prop :=
  ∀ base exponent, .pow base exponent ∈ expr.parts → base.isShownSigned = false

/-- Whether no literal is negated. -/
def NegatesNoLiteral (expr : Expr Float) : Prop :=
  ∀ value, .neg (.literal value) ∉ expr.parts

/-- A literal has no powers. -/
@[simp]
theorem hasUnsignedBases_literal {value : Float} : (literal value).HasUnsignedBases := by
  simp [HasUnsignedBases, parts]

/-- A symbol has no powers. -/
@[simp]
theorem hasUnsignedBases_symbol {name : String} : (symbol name).HasUnsignedBases := by
  simp [HasUnsignedBases, parts]

/-- The powers of a negation are those of its operand. -/
@[simp]
theorem hasUnsignedBases_neg : (neg operand).HasUnsignedBases ↔ operand.HasUnsignedBases := by
  simp [HasUnsignedBases, parts]

/-- The powers of an operation are those of its operands, and itself if it is one. -/
@[simp]
theorem hasUnsignedBases_binary :
    (binary operation left right).HasUnsignedBases ↔
      (operation = .pow → left.isShownSigned = false) ∧
        left.HasUnsignedBases ∧ right.HasUnsignedBases := by
  simp only [HasUnsignedBases, parts, List.mem_cons, List.mem_append, or_imp, forall_and]
  refine and_congr_left fun _ => ⟨fun unsigned power => ?_, fun unsigned base exponent same => ?_⟩
  · exact unsigned left right (power ▸ rfl)
  · injection same with power bases
    exact bases ▸ unsigned power.symm

/-- The powers of a call are those of its argument. -/
@[simp]
theorem hasUnsignedBases_call :
    (call function argument).HasUnsignedBases ↔ argument.HasUnsignedBases := by
  simp [HasUnsignedBases, parts]

/-- The negations of an operation are those of its operands. -/
@[simp]
theorem negatesNoLiteral_binary :
    (binary operation left right).NegatesNoLiteral ↔
      left.NegatesNoLiteral ∧ right.NegatesNoLiteral := by
  simp [NegatesNoLiteral, parts, forall_and]

/-- The negations of a call are those of its argument. -/
@[simp]
theorem negatesNoLiteral_call :
    (call function argument).NegatesNoLiteral ↔ argument.NegatesNoLiteral := by
  simp [NegatesNoLiteral, parts]

/-- A negation is no negated literal when its operand is none, and neither are those in it. -/
@[simp]
theorem negatesNoLiteral_neg :
    (neg operand).NegatesNoLiteral ↔ operand.literal? = none ∧ operand.NegatesNoLiteral := by
  cases operand <;> simp [NegatesNoLiteral, parts, literal?]

/-- A literal by itself is not negated. -/
@[simp]
theorem negatesNoLiteral_literal {value : Float} : (literal value).NegatesNoLiteral := by
  simp [NegatesNoLiteral, parts]

/-- A symbol has no negations. -/
@[simp]
theorem negatesNoLiteral_symbol {name : String} : (symbol name).NegatesNoLiteral := by
  simp [NegatesNoLiteral, parts]

/-- The opposite of what is no literal is its negation. -/
theorem opposite_of_literal? (bare : operand.literal? = none) :
    opposite operand = .neg operand :=
  opposite_of_ne_literal (by rintro value rfl; contradiction)

/-- A finite literal is read as itself. -/
theorem shownReading_literal {value : Float} (finite : value.isFinite = true) :
    (literal value).shownReading = .literal value := by
  have small := magnitudeBits_lt finite
  rw [shownReading, behindSign, isShownSigned, unsignedReading]
  rw [eq_ofSignBits finite]
  generalize isNegative value = negative
  generalize magnitudeBits value = bits at small
  rw [isNegative_ofSignBits small, magnitudeBits_ofSignBits small]
  cases negative with
  | false => rfl
  | true =>
    rw [if_pos rfl]
    exact congrArg Expr.literal (neg_ofSignBits small)

/-- Where no base has a sign, an expression is read as itself. -/
theorem shownReading_eq (finite : expr.HasFiniteLiterals) (bare : expr.NegatesNoLiteral)
    (unsigned : expr.HasUnsignedBases) : expr.shownReading = expr := by
  induction expr with
  | literal value => exact shownReading_literal (hasFiniteLiterals_literal.1 finite)
  | symbol name => rfl
  | neg operand ih =>
    obtain ⟨noLiteral, bare⟩ := negatesNoLiteral_neg.1 bare
    rw [shownReading_neg,
      ih (hasFiniteLiterals_neg.1 finite) bare (hasUnsignedBases_neg.1 unsigned),
      opposite_of_literal? noLiteral]
  | binary operation left right ihLeft ihRight =>
    obtain ⟨finiteLeft, finiteRight⟩ := hasFiniteLiterals_binary.1 finite
    obtain ⟨bareLeft, bareRight⟩ := negatesNoLiteral_binary.1 bare
    obtain ⟨unsignedBase, unsignedLeft, unsignedRight⟩ := hasUnsignedBases_binary.1 unsigned
    have left' := ihLeft finiteLeft bareLeft unsignedLeft
    have right' := ihRight finiteRight bareRight unsignedRight
    by_cases power : operation = .pow
    · have noSign := unsignedBase power
      rw [shownReading, behindSign_of_unsigned noSign] at left'
      rw [power, shownReading_pow, behindSign_of_unsigned noSign, left', right']
    · rw [shownReading_binary power, left', right']
  | call function argument ih =>
    rw [shownReading_call, ih (hasFiniteLiterals_call.1 finite) (negatesNoLiteral_call.1 bare)
      (hasUnsignedBases_call.1 unsigned)]

/-- What has finite literals is the same as itself. -/
theorem same_self (finite : expr.HasFiniteLiterals) : expr.same expr = true := by
  induction expr with
  | literal value => exact beq_self (hasFiniteLiterals_literal.1 finite)
  | symbol name => exact beq_self_eq_true name
  | neg operand ih => exact ih (hasFiniteLiterals_neg.1 finite)
  | binary operation left right ihLeft ihRight =>
    obtain ⟨finiteLeft, finiteRight⟩ := hasFiniteLiterals_binary.1 finite
    simp [same, ihLeft finiteLeft, ihRight finiteRight]
  | call function argument ih => simp [same, ih (hasFiniteLiterals_call.1 finite)]

/-- An opposite that is the same as a negation is the negation of what is the same as the
operand. -/
theorem same_of_same_opposite (same : (opposite value).same (.neg operand) = true) :
    value.same operand = true := by
  cases value with
  | literal => cases same
  | symbol | neg | binary | call => exact same

/-- Only where no base has a sign is an expression read as one that is the same up to literals
that compare equal. -/
theorem hasUnsignedBases_of_same (same : expr.shownReading.same expr = true) :
    expr.HasUnsignedBases := by
  induction expr with
  | literal value => exact hasUnsignedBases_literal
  | symbol name => exact hasUnsignedBases_symbol
  | neg operand ih =>
    exact hasUnsignedBases_neg.2 (ih (same_of_same_opposite same))
  | binary operation left right ihLeft ihRight =>
    rw [hasUnsignedBases_binary]
    by_cases power : operation = .pow
    · obtain rfl := power
      rw [shownReading_pow] at same
      cases sign : left.isShownSigned with
      | true =>
        -- a negation is no power
        rw [behindSign, sign] at same
        cases same
      | false =>
        rw [behindSign_of_unsigned sign, Expr.same, Bool.and_eq_true, Bool.and_eq_true] at same
        obtain ⟨⟨_, base⟩, exponent⟩ := same
        have reading : left.shownReading = left.unsignedReading := behindSign_of_unsigned sign
        exact ⟨fun _ => rfl, ihLeft (reading ▸ base), ihRight exponent⟩
    · rw [shownReading_binary power, Expr.same, Bool.and_eq_true, Bool.and_eq_true] at same
      exact ⟨fun found => absurd found power, ihLeft same.1.2, ihRight same.2⟩
  | call function argument ih =>
    rw [shownReading_call, Expr.same, Bool.and_eq_true] at same
    exact hasUnsignedBases_call.2 (ih same.2)

/-- The text that an expression is shown as always parses, if its literals are finite, its
symbols are words and no literal is negated. It parses to the expression itself exactly when
no power has a base with a sign; otherwise what it parses to is not even the same up to
literals that compare equal. -/
theorem display_readsBack_iff (finite : expr.HasFiniteLiterals)
    (words : ∀ name, expr.contains name → C.isWord name.toList) (bare : expr.NegatesNoLiteral) :
    ∃ read, parse expr.display = .ok read ∧
      (read = expr ↔ expr.HasUnsignedBases) ∧ (read.same expr = true ↔ expr.HasUnsignedBases) := by
  have faithful := shownReading_eq finite bare
  refine ⟨expr.shownReading, parse_display finite words, ⟨fun same => ?_, faithful⟩,
    ⟨hasUnsignedBases_of_same, fun unsigned => ?_⟩⟩
  · exact hasUnsignedBases_of_same (same.symm ▸ same_self finite)
  · exact (faithful unsigned).symm ▸ same_self finite

/-- Signs in an exponent and in a product do no harm, and the one of a base does. -/
theorem display_readsBack_iff_of_signedBase :
    (∃ read, parse (display (.mul (.literal (-0.5)) (.pow (.symbol "x") (.neg (.symbol "y"))))) =
        .ok read ∧ read = .mul (.literal (-0.5)) (.pow (.symbol "x") (.neg (.symbol "y")))) ∧
      ∃ read, parse (display (.pow (.neg (.symbol "x")) (.literal 2.0))) = .ok read ∧
        read ≠ .pow (.neg (.symbol "x")) (.literal 2.0) := by
  have half : Scalar.isFinite (-0.5 : Float) = true := by decide
  have two : Scalar.isFinite (2.0 : Float) = true := by decide
  have words : ∀ name, "x" = name ∨ "y" = name → C.isWord name.toList := by
    rintro name (rfl | rfl) <;> decide
  constructor
  · obtain ⟨read, parsed, same, _⟩ := @display_readsBack_iff
      (.mul (.literal (-0.5)) (.pow (.symbol "x") (.neg (.symbol "y"))))
      (by simpa using half)
      (fun name found => words name (by simpa [contains] using found))
      (by simp [literal?])
    exact ⟨read, parsed, same.2 (by simp [isShownSigned])⟩
  · obtain ⟨read, parsed, same, _⟩ := @display_readsBack_iff
      (.pow (.neg (.symbol "x")) (.literal 2.0)) (by simpa using two)
      (fun name found => words name (.inl (by simpa [contains] using found)))
      (by simp [literal?])
    exact ⟨read, parsed, fun equal => absurd (same.1 equal) (by simp [isShownSigned])⟩

end Faithfulness

end KalmanHeader.Expr
