import KalmanHeader.Proofs.C.Text

/-!
# Minus signs in C

In C two minus signs side by side are another operator. An expression is written so that
they never meet: each minus sign in its text is the operator of a difference with a blank on
either side, the sign of the exponent of a number, or a sign in front of an operand, and the
last stands at the start of the text, behind an opening parenthesis or behind the separator
of two arguments.

Where a part of an expression is written is a relation with one rule for each place that a
node has for a part; what a minus sign is follows part by part.
-/

namespace KalmanHeader.C

open Number Token

variable {naming : Naming} {expr part : Expr Float} {before after : List Char}

section Places

/-- The only operator that is a minus sign is that of differences. -/
theorem eq_sub_of_operatorCharacter {operation : Operation}
    (minus : operatorCharacter operation = '-') : operation = .sub := by
  cases operation with
  | sub => rfl
  | add | mul | div | pow | atan2 => exact absurd minus (by decide)

/-- What is written in front of an operand that may be enclosed. -/
def opening (enclose : Bool) : List Char :=
  if enclose then ['('] else []

/-- What is written behind an operand that may be enclosed. -/
def closing (enclose : Bool) : List Char :=
  if enclose then [')'] else []

/-- An operand is its text between what opens and what closes it. -/
theorem operandCharacters_eq (enclose : Bool) (text : List Char) :
    operandCharacters enclose text = opening enclose ++ (text ++ closing enclose) := by
  cases enclose with
  | false => exact (List.append_nil text).symm
  | true => rfl

/-- Whether an operand in front of an operator of a level, or behind a sign, is enclosed. -/
def enclosesLeft (level : Nat) (operand : Expr Float) : Bool :=
  isSigned operand || strength operand < level

/-- Whether an operand behind an operator of a level is enclosed. -/
def enclosesRight (level : Nat) (operand : Expr Float) : Bool :=
  isSigned operand || strength operand ≤ level

/-- The characters of an operand in front of an operator of a level. -/
def leftCharacters (naming : Naming) (level : Nat) (operand : Expr Float) : List Char :=
  operandCharacters (enclosesLeft level operand) (expression naming operand).toList

/-- The characters of an operand behind an operator of a level. -/
def rightCharacters (naming : Naming) (level : Nat) (operand : Expr Float) : List Char :=
  operandCharacters (enclosesRight level operand) (expression naming operand).toList

/-- Where the parts of an expression are written: a part stands between what comes before it
and what comes after it. -/
inductive Stands (naming : Naming) (expr : Expr Float) :
    Expr Float → List Char → List Char → Prop
  | whole : Stands naming expr expr [] []
  | negated {operand : Expr Float} {before after : List Char}
    (outer : Stands naming expr (.neg operand) before after) :
    Stands naming expr operand (before ++ '-' :: opening (enclosesLeft 3 operand))
      (closing (enclosesLeft 3 operand) ++ after)
  | left {operation : Operation} {left right : Expr Float} {between : String} {level : Nat}
    {before after : List Char} (known : operator? operation = some (between, level))
    (outer : Stands naming expr (.binary operation left right) before after) :
    Stands naming expr left (before ++ opening (enclosesLeft level left))
      (closing (enclosesLeft level left) ++ ' ' :: operatorCharacter operation :: ' ' ::
        (rightCharacters naming level right ++ after))
  | right {operation : Operation} {left right : Expr Float} {between : String} {level : Nat}
    {before after : List Char} (known : operator? operation = some (between, level))
    (outer : Stands naming expr (.binary operation left right) before after) :
    Stands naming expr right
      (before ++ (leftCharacters naming level left ++ ' ' :: operatorCharacter operation :: ' ' ::
        opening (enclosesRight level right)))
      (closing (enclosesRight level right) ++ after)
  | first {operation : Operation} {left right : Expr Float} {before after : List Char}
    (call : operator? operation = none)
    (outer : Stands naming expr (.binary operation left right) before after) :
    Stands naming expr left (before ++ ((callName operation).toList ++ ['(']))
      (',' :: ' ' :: ((expression naming right).toList ++ ')' :: after))
  | second {operation : Operation} {left right : Expr Float} {before after : List Char}
    (call : operator? operation = none)
    (outer : Stands naming expr (.binary operation left right) before after) :
    Stands naming expr right
      (before ++ ((callName operation).toList ++ '(' ::
        ((expression naming left).toList ++ [',', ' '])))
      (')' :: after)
  | argument {function : Elementary} {argument : Expr Float} {before after : List Char}
    (outer : Stands naming expr (.call function argument) before after) :
    Stands naming expr argument (before ++ (function.cName.toList ++ ['('])) (')' :: after)

/-- The characters of a negation. -/
theorem toList_neg_eq (operand : Expr Float) :
    (expression naming (.neg operand)).toList = '-' :: leftCharacters naming 3 operand :=
  toList_neg operand

/-- The characters of two operands with an operator between them. -/
theorem toList_between_eq {operation : Operation} {between : String} {level : Nat}
    (known : operator? operation = some (between, level)) (left right : Expr Float) :
    (expression naming (.binary operation left right)).toList =
      leftCharacters naming level left ++ ' ' :: operatorCharacter operation :: ' ' ::
        rightCharacters naming level right :=
  toList_between known left right

/-- The text of an expression is that of each of its parts at its place. -/
theorem Stands.toList_eq (stands : Stands naming expr part before after) :
    (expression naming expr).toList = before ++ ((expression naming part).toList ++ after) := by
  induction stands with
  | whole => rw [List.nil_append, List.append_nil]
  | negated outer ih =>
    rw [ih, toList_neg_eq, leftCharacters, operandCharacters_eq]
    simp only [List.append_assoc, List.cons_append]
  | left known outer ih =>
    rw [ih, toList_between_eq known, leftCharacters, operandCharacters_eq]
    simp only [List.append_assoc, List.cons_append]
  | right known outer ih =>
    rw [ih, toList_between_eq known, rightCharacters, operandCharacters_eq]
    simp only [List.append_assoc, List.cons_append]
  | first call outer ih | second call outer ih =>
    rw [ih, toList_operation call]
    simp only [List.append_assoc, List.cons_append, List.nil_append]
  | argument outer ih =>
    rw [ih, toList_call]
    simp only [List.append_assoc, List.cons_append, List.nil_append]

end Places

section Roles

/-- What may come right before a sign in front of an operand: nothing, an opening parenthesis,
or the separator of two arguments. -/
inductive Opens (naming : Naming) (expr : Expr Float) : List Char → Prop
  | start : Opens naming expr []
  | parenthesis {before : List Char} (last : ['('] <:+ before) : Opens naming expr before
  | separator {operation : Operation} {left right : Expr Float} {before after : List Char}
    (call : operator? operation = none)
    (stands : Stands naming expr (.binary operation left right) before after) :
    Opens naming expr
      (before ++ ((callName operation).toList ++ '(' ::
        ((expression naming left).toList ++ [',', ' '])))

/-- Whether a minus sign is the operator of a difference, between its operands and with a
blank on either side. -/
inductive IsOperator (naming : Naming) (expr : Expr Float) : List Char → List Char → Prop
  | between {left right : Expr Float} {before after : List Char}
    (stands : Stands naming expr (.sub left right) before after) :
    IsOperator naming expr (before ++ (leftCharacters naming 1 left ++ [' ']))
      (' ' :: (rightCharacters naming 1 right ++ after))

/-- Whether a minus sign in a number is that of its exponent: the digits of the number and the
mark come before it, and digits after it. -/
inductive IsExponentOf (value : Float) : List Char → List Char → Prop
  | between {sign mantissa digits : List Char}
    (written : (number value).toList = sign ++ (mantissa ++ 'e' :: '-' :: digits))
    (signs : sign = [] ∨ sign = ['-']) (plain : IsPlain mantissa) (present : digits ≠ [])
    (digital : ∀ character ∈ digits, character.isDigit) :
    IsExponentOf value (sign ++ (mantissa ++ ['e'])) digits

/-- Whether a minus sign is the sign of the exponent of a number. -/
inductive IsExponentSign (naming : Naming) (expr : Expr Float) : List Char → List Char → Prop
  | inside {value : Float} {before after front back : List Char}
    (stands : Stands naming expr (.literal value) before after)
    (exponent : IsExponentOf value front back) :
    IsExponentSign naming expr (before ++ front) (back ++ after)

/-- Whether a minus sign stands in front of an operand, where an operand can start. The one
of negative infinity has a parenthesis of its own. -/
inductive IsUnary (naming : Naming) (expr : Expr Float) : List Char → List Char → Prop
  | front {part : Expr Float} {text before after : List Char}
    (stands : Stands naming expr part before after)
    (signed : (expression naming part).toList = '-' :: text)
    (opens : Opens naming expr before) : IsUnary naming expr before (text ++ after)
  | infinity {value : Float} {before after : List Char}
    (stands : Stands naming expr (.literal value) before after)
    (written : number value = "(-INFINITY)") :
    IsUnary naming expr (before ++ ['(']) ("INFINITY)".toList ++ after)

/-- Whether a minus sign has one of the three roles. -/
def HasRole (naming : Naming) (expr : Expr Float) (before after : List Char) : Prop :=
  IsOperator naming expr before after ∨ IsExponentSign naming expr before after ∨
    IsUnary naming expr before after

/-- What has a role is a minus sign of the text. -/
theorem HasRole.toList_eq (role : HasRole naming expr before after) :
    (expression naming expr).toList = before ++ '-' :: after := by
  rcases role with operator | exponent | unary
  · cases operator with
    | between stands =>
      rw [stands.toList_eq, Expr.sub, toList_between_eq rfl]
      simp only [operatorCharacter, List.append_assoc, List.cons_append, List.nil_append]
  · cases exponent with
    | inside stands exponent =>
      obtain ⟨written, _, _, _, _⟩ := exponent
      rw [stands.toList_eq, expression, written]
      simp only [List.append_assoc, List.cons_append, List.nil_append]
  · cases unary with
    | front stands signed opens => rw [stands.toList_eq, signed, List.cons_append]
    | infinity stands written =>
      rw [stands.toList_eq, expression, written, List.append_assoc]
      rfl

/-- What starts with a sign stands where an operand can start. -/
theorem Stands.opens (stands : Stands naming expr part before after)
    (signed : isSigned part = true) : Opens naming expr before := by
  have left : ∀ level, enclosesLeft level part = true := fun level => by
    rw [enclosesLeft, signed, Bool.true_or]
  have right : ∀ level, enclosesRight level part = true := fun level => by
    rw [enclosesRight, signed, Bool.true_or]
  cases stands with
  | whole => exact .start
  | @negated _ before _ outer =>
    rw [left]
    exact .parenthesis ⟨before ++ ['-'], List.append_assoc ..⟩
  | @left _ _ _ _ _ before _ known outer =>
    rw [left]
    exact .parenthesis ⟨before, rfl⟩
  | right known outer =>
    rw [right]
    refine .parenthesis (List.suffix_append_of_suffix (List.suffix_append_of_suffix ?_))
    exact List.suffix_append [' ', _, ' '] ['(']
  | first call outer => exact .parenthesis (List.suffix_append_of_suffix (List.suffix_append _ _))
  | second call outer => exact .separator call outer
  | argument outer => exact .parenthesis (List.suffix_append_of_suffix (List.suffix_append _ _))

/-- What opens does not end with an operator, nor with one and a blank. -/
theorem Opens.not_operator {character : Char} (opens : Opens naming expr before)
    (operator : character ∈ ['+', '-', '*', '/']) :
    ¬[character] <:+ before ∧ ¬[character, ' '] <:+ before := by
  have noMark : ∀ operator ∈ ['+', '-', '*', '/'], ∀ mark ∈ ['(', ',', ' '], operator ≠ mark := by
    simp
  have noParenthesis := noMark character operator '(' (by decide)
  have noComma := noMark character operator ',' (by decide)
  have noBlank := noMark character operator ' ' (by decide)
  cases opens with
  | start => simp
  | parenthesis last =>
    obtain ⟨start, rfl⟩ := last
    simp [← List.reverse_prefix, noParenthesis]
  | separator call stands =>
    simp [← List.reverse_prefix, noBlank, noComma]

/-- A sign in front of an operand never follows an operator. -/
theorem IsUnary.not_operator {character : Char} (unary : IsUnary naming expr before after)
    (operator : character ∈ ['+', '-', '*', '/']) :
    ¬[character] <:+ before ∧ ¬[character, ' '] <:+ before := by
  cases unary with
  | front stands signed opens => exact opens.not_operator operator
  | @infinity _ before _ stands written =>
    have opens : Opens naming expr (before ++ ['(']) := .parenthesis (List.suffix_append before _)
    exact opens.not_operator operator

/-- A minus sign with a role does not follow another one. -/
theorem HasRole.not_minus (role : HasRole naming expr before after) : ¬['-'] <:+ before := by
  rcases role with operator | exponent | unary
  · cases operator with
    | between stands => simp [← List.reverse_prefix]
  · cases exponent with
    | inside stands exponent =>
      obtain ⟨_, _, _, _, _⟩ := exponent
      simp [← List.reverse_prefix]
  · exact (unary.not_operator (by decide)).1

end Roles

section Texts

variable {role role' : List Char → List Char → Prop} {text text' : List Char}

/-- Whether each minus sign in a text has a role there, given by what comes before and after
it. -/
def EachMinus (role : List Char → List Char → Prop) (text : List Char) : Prop :=
  ∀ before after, text = before ++ '-' :: after → role before after

/-- A role that implies another. -/
theorem EachMinus.imp (each : EachMinus role text)
    (implies : ∀ before after, role before after → role' before after) : EachMinus role' text :=
  fun before after same => implies before after (each before after same)

/-- In a text without minus signs there is none to have a role. -/
theorem eachMinus_of_notMem (absent : '-' ∉ text) : EachMinus role text := by
  rintro before after rfl
  exact absurd (by simp) absent

/-- A character in front of a text, if it is a minus sign, and the minus signs in the text. -/
theorem eachMinus_cons {character : Char} (first : character = '-' → role [] text)
    (others : EachMinus (fun before after => role (character :: before) after) text) :
    EachMinus role (character :: text) := by
  intro before after same
  cases before with
  | nil =>
    obtain ⟨minus, rfl⟩ := List.cons.inj same
    exact first minus
  | cons head before =>
    obtain ⟨rfl, within⟩ := List.cons.inj same
    exact others before after within

/-- Another character in front of a text adds no minus sign. -/
theorem eachMinus_cons_of_ne {character : Char} (other : character ≠ '-')
    (others : EachMinus (fun before after => role (character :: before) after) text) :
    EachMinus role (character :: text) :=
  eachMinus_cons (fun minus => absurd minus other) others

/-- The minus signs in one text and those in the text that follows it. -/
theorem EachMinus.append (left : EachMinus (fun before after => role before (after ++ text')) text)
    (right : EachMinus (fun before after => role (text ++ before) after) text') :
    EachMinus role (text ++ text') := by
  intro before after same
  rcases List.append_eq_append_iff.1 same with ⟨more, rfl, within⟩ | ⟨more, within, rest⟩
  · exact right more after within
  · -- What is left of the first text is empty exactly if the second starts with the sign.
    cases more with
    | nil =>
      obtain rfl : text = before := within.trans (List.append_nil before)
      exact List.append_nil text ▸ right [] after rest.symm
    | cons character more =>
      obtain ⟨rfl, rfl⟩ := List.cons.inj rest
      exact left before more within

/-- The minus signs of an operand are those of its text. -/
theorem EachMinus.operand {enclose : Bool}
    (inner : EachMinus (fun before after => role (opening enclose ++ before)
      (after ++ closing enclose)) text) : EachMinus role (operandCharacters enclose text) := by
  have opened : '-' ∉ opening enclose := by cases enclose <;> decide
  have closed : '-' ∉ closing enclose := by cases enclose <;> decide
  rw [operandCharacters_eq]
  exact (eachMinus_of_notMem opened).append (inner.append (eachMinus_of_notMem closed))

end Texts

section Numbers

/-- What a minus sign in a number is: the sign of the number, or that of its exponent. -/
inductive IsSignOf (value : Float) : List Char → List Char → Prop
  | front (digits : List Char) (signed : isSigned (.literal value) = true) :
    IsSignOf value [] digits
  | infinity (written : number value = "(-INFINITY)") :
    IsSignOf value ['('] "INFINITY)".toList
  | exponent {front back : List Char} (exponent : IsExponentOf value front back) :
    IsSignOf value front back

/-- There is no minus sign among digits and points. -/
theorem notMem_of_isPlain {text : List Char} (plain : IsPlain text) : '-' ∉ text := by
  intro member
  rcases plain.digit_or_point _ member with digit | point
  · exact absurd digit (by decide)
  · exact absurd point (by decide)

/-- There is no minus sign among digits. -/
theorem notMem_toDigits (value : Nat) : '-' ∉ Nat.toDigits 10 value :=
  fun member => absurd (isDigit_of_mem_toDigits _ member) (by decide)

/-- The only minus sign in the digits of a number is that of a negative exponent. -/
theorem eachMinus_decimalText {value : Float} {decimal : Decimal} {sign : List Char}
    (signs : sign = [] ∨ sign = ['-'])
    (written : (number value).toList = sign ++ numberStyle.decimalText decimal) :
    EachMinus (fun before after => IsSignOf value (sign ++ before) after)
      (numberStyle.decimalText decimal) := by
  unfold Style.decimalText at written ⊢
  split at written <;> rename_i positional
  · rw [if_pos positional]
    exact eachMinus_of_notMem (notMem_of_isPlain (isPlain_positionalText (.inr rfl) decimal))
  · rw [if_neg positional]
    obtain ⟨mantissa, plain, layout⟩ := exists_isPlain_scientificText [] decimal
    have digits := notMem_toDigits (decimal.magnitude - 1).natAbs
    change (number value).toList = sign ++ scientificText [] decimal at written
    change EachMinus _ (scientificText [] decimal)
    rw [layout] at written ⊢
    split at written <;> rename_i below
    · rw [if_pos below]
      refine EachMinus.append (eachMinus_of_notMem (notMem_of_isPlain plain)) ?_
      refine eachMinus_cons_of_ne (by decide) (eachMinus_cons (fun _ => ?_) ?_)
      · exact .exponent (.between written signs plain Nat.toDigits_ne_nil isDigit_of_mem_toDigits)
      · exact eachMinus_of_notMem digits
    · rw [if_neg below]
      refine eachMinus_of_notMem ?_
      simp [notMem_of_isPlain plain, digits]

/-- A minus sign in front of a finite number that is not zero, and those in its digits. -/
theorem eachMinus_finite {value : Float} (finite : value.isFinite = true)
    (nonzero : ¬(value == 0.0) = true) : EachMinus (IsSignOf value) (number value).toList := by
  have small := magnitudeBits_lt finite
  have signed : isSigned (.literal value) = isNegative value := by
    rw [eq_ofSignBits finite, beq_zero_ofSignBits small, decide_eq_true_eq] at nonzero
    rw [isSigned, finite, Bool.and_true, eq_ofSignBits finite, lt_zero_ofSignBits small,
      isNegative_ofSignBits small, decide_eq_true nonzero, Bool.and_true]
  have written : (number value).toList =
      (if isNegative value then ['-'] else []) ++
        numberStyle.decimalText (shortest numberStyle.tie (magnitudeBits value)) := by
    rw [number, if_neg nonzero]
    conv_lhs => rw [eq_ofSignBits finite]
    rw [Style.toList_text_ofSignBits _ small]
    split <;> rfl
  cases negative : isNegative value with
  | false =>
    rw [negative, if_neg Bool.false_ne_true] at written
    exact written ▸ eachMinus_decimalText (.inl rfl) written
  | true =>
    rw [negative, if_pos rfl] at written
    rw [written]
    exact eachMinus_cons (fun _ => .front _ (signed.trans negative))
      (eachMinus_decimalText (.inr rfl) written)

/-- The minus signs in a number. -/
theorem eachMinus_number (value : Float) : EachMinus (IsSignOf value) (number value).toList := by
  by_cases zero : (value == 0.0) = true
  · rw [number, if_pos zero]
    exact eachMinus_of_notMem (by decide)
  · have written : number value = String.ofList (numberStyle.characters value) := by
      rw [number, if_neg zero, Style.text]
    cases number : value.isNaN with
    | true =>
      rw [written, Style.characters, if_pos number]
      exact eachMinus_of_notMem (by decide)
    | false =>
      cases bounded : value.isInf with
      | false => exact eachMinus_finite (isFinite_of_not number bounded) zero
      | true =>
        rw [Style.characters, if_neg (by rw [number]; decide), if_pos bounded] at written
        split at written
        · rw [written]
          refine eachMinus_cons_of_ne (by decide) (eachMinus_cons (fun _ => ?_) ?_)
          · exact .infinity written
          · exact eachMinus_of_notMem (by decide)
        · rw [written]
          exact eachMinus_of_notMem (by decide)

end Numbers

section Expressions

/-- What a minus sign in a number is, it is where the number is written. -/
theorem IsSignOf.hasRole {value : Float} {front back : List Char}
    (isSign : IsSignOf value front back) (split : (number value).toList = front ++ '-' :: back)
    (stands : Stands naming expr (.literal value) before after) :
    HasRole naming expr (before ++ front) (back ++ after) := by
  cases isSign with
  | front digits signed =>
    rw [List.append_nil]
    exact .inr (.inr (.front stands split (stands.opens signed)))
  | infinity written => exact .inr (.inr (.infinity stands written))
  | exponent exponent => exact .inr (.inl (.inside stands exponent))

/-- Each minus sign in a part of an expression has a role in the expression. -/
theorem Stands.eachMinus (stands : Stands naming expr part before after)
    (named : ∀ name, part.contains name → '-' ∉ (naming name).toList) :
    EachMinus (fun front back => HasRole naming expr (before ++ front) (back ++ after))
      (expression naming part).toList := by
  induction part generalizing before after with
  | literal value =>
    intro front back split
    exact (eachMinus_number value front back split).hasRole split stands
  | symbol name => exact eachMinus_of_notMem (named name (by simp [Expr.contains]))
  | neg operand ih =>
    have signed : (expression naming (.neg operand)).toList =
        '-' :: leftCharacters naming 3 operand := toList_neg_eq operand
    rw [signed]
    refine eachMinus_cons (fun _ => ?_) (EachMinus.operand ?_)
    · rw [List.append_nil]
      exact .inr (.inr (.front stands signed (stands.opens rfl)))
    · refine (ih stands.negated named).imp fun front back role => ?_
      simpa only [List.append_assoc, List.cons_append] using role
  | binary operation left right ihLeft ihRight =>
    have namedLeft : ∀ name, left.contains name → '-' ∉ (naming name).toList :=
      fun name found => named name (by simp [Expr.contains, found])
    have namedRight : ∀ name, right.contains name → '-' ∉ (naming name).toList :=
      fun name found => named name (by simp [Expr.contains, found])
    cases known : operator? operation with
    | some operator =>
      obtain ⟨between, level⟩ := operator
      have leftMinus := ihLeft (stands.left known) namedLeft
      have rightMinus := ihRight (stands.right known) namedRight
      rw [toList_between_eq known]
      refine EachMinus.append ?_ (eachMinus_cons_of_ne (by decide) (eachMinus_cons ?_ ?_))
      · refine EachMinus.operand (leftMinus.imp fun front back role => ?_)
        simpa only [List.append_assoc, List.cons_append] using role
      · intro minus
        obtain rfl := eq_sub_of_operatorCharacter minus
        obtain ⟨-, rfl⟩ := Prod.mk.inj (Option.some.inj known)
        exact .inl (.between stands)
      · refine eachMinus_cons_of_ne (by decide) (EachMinus.operand ?_)
        refine rightMinus.imp fun front back role => ?_
        simpa only [List.append_assoc, List.cons_append, List.nil_append] using role
    | none =>
      have leftMinus := ihLeft (stands.first known) namedLeft
      have rightMinus := ihRight (stands.second known) namedRight
      have word : '-' ∉ (callName operation).toList :=
        notMem_of_isWord (isWord_callName known) (by decide)
      rw [toList_operation known, List.append_assoc]
      refine EachMinus.append (eachMinus_of_notMem word) (eachMinus_cons_of_ne (by decide) ?_)
      refine EachMinus.append (leftMinus.imp fun front back role => ?_)
        (eachMinus_cons_of_ne (by decide) (eachMinus_cons_of_ne (by decide) ?_))
      · simpa only [List.append_assoc, List.cons_append, List.nil_append] using role
      · refine EachMinus.append (rightMinus.imp fun front back role => ?_)
          (eachMinus_of_notMem (by decide))
        simpa only [List.append_assoc, List.cons_append, List.nil_append] using role
  | call function argument ih =>
    have inner := ih stands.argument named
    have word : '-' ∉ function.cName.toList :=
      notMem_of_isWord (isWord_cName function) (by decide)
    rw [toList_call]
    refine EachMinus.append (eachMinus_of_notMem word) (eachMinus_cons_of_ne (by decide) ?_)
    refine EachMinus.append (inner.imp fun front back role => ?_) (eachMinus_of_notMem (by decide))
    simpa only [List.append_assoc, List.cons_append, List.nil_append] using role

/-- In an expression whose names have no minus sign, the minus signs are exactly these: the
operators of differences, the signs of exponents, and the signs in front of an operand at the
start of the text, behind an opening parenthesis or behind the separator of two arguments.
The last kind never follows an operator, and no two minus signs meet. -/
theorem minusSigns_apart
    (named : ∀ name, expr.contains name → '-' ∉ (naming name).toList) :
    (∀ before after, (expression naming expr).toList = before ++ '-' :: after ↔
        HasRole naming expr before after) ∧
      (∀ before after, IsUnary naming expr before after → ∀ operator ∈ ['+', '-', '*', '/'],
        ¬[operator] <:+ before ∧ ¬[operator, ' '] <:+ before) ∧
      ¬['-', '-'] <:+: (expression naming expr).toList := by
  have each : EachMinus (HasRole naming expr) (expression naming expr).toList :=
    (Stands.whole.eachMinus named).imp fun before after role => List.append_nil after ▸ role
  refine ⟨fun before after => ⟨each before after, HasRole.toList_eq⟩, ?_, ?_⟩
  · exact fun before after unary operator member => unary.not_operator member
  · rintro ⟨before, after, twice⟩
    refine (each (before ++ ['-']) after ?_).not_minus (List.suffix_append before ['-'])
    simp [← twice]

/-- The sign of a subtrahend is kept from the operator in front of it. -/
theorem minusSigns_apart_of_subtrahend :
    HasRole plainNaming (.sub (.symbol "x") (.neg (.symbol "y"))) "x - (".toList "y)".toList ∧
      ¬['-', '-'] <:+:
        (expression plainNaming (.sub (.symbol "x") (.neg (.symbol "y")))).toList := by
  have named : ∀ name, "x" = name ∨ "y" = name → '-' ∉ (plainNaming name).toList := by
    rintro name (rfl | rfl) <;> decide
  obtain ⟨roles, -, apart⟩ := @minusSigns_apart plainNaming
    (.sub (.symbol "x") (.neg (.symbol "y")))
    fun name found => named name (by simpa [Expr.contains] using found)
  exact ⟨(roles _ _).1 (by decide), apart⟩

end Expressions

end KalmanHeader.C
