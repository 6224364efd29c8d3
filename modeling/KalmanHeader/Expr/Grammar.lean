import KalmanHeader.Expr.Basic
import KalmanHeader.Expr.Token

/-!
# The grammar of expressions

Expressions are read from tokens by one function for each rule of the grammar:

- a sum is products joined by `+` and `-`, grouped to the left;
- a product is signed operands joined by `*` and `/`, grouped to the left;
- a signed operand is a signed operand after `-` or `+`, or a power;
- a power is a primary, or a primary, `^` and a signed operand;
- a primary is a number, a symbol, a call or a sum in parentheses.

Each function says what it makes of a list of tokens: a value or a fault, and
the tokens it leaves. Either way these are the last of the tokens it was given,
and after a value there are fewer of them.
-/

namespace KalmanHeader

/-- Why a rule of the grammar does not apply. -/
inductive GrammarFault where
  /-- The next token, or the end, is not one of those described. -/
  | expected (descriptions : List String)
  /-- A call of a function that does not exist. -/
  | unknownFunction (name : String)
  /-- A call of a function with the wrong number of arguments. -/
  | wrongArity (name : String) (expected found : Nat)
  deriving DecidableEq, Repr

namespace Grammar

variable {ν α β : Type}

/-- What a rule makes of `input`: a value that uses up at least `least` tokens,
or a fault. -/
inductive Reading (ν α : Type) (least : Nat) (input : List (Token ν)) where
  | done (value : α) (rest : List (Token ν)) (suffix : rest <:+ input)
      (shorter : rest.length + least ≤ input.length)
  | stuck (fault : GrammarFault) (rest : List (Token ν)) (suffix : rest <:+ input)

namespace Reading

variable {least : Nat} {input : List (Token ν)}

/-- The tokens left after the reading. -/
def rest : Reading ν α least input → List (Token ν)
  | .done _ rest _ _ => rest
  | .stuck _ rest _ => rest

/-- The value read, or the fault met. -/
def result : Reading ν α least input → Except GrammarFault α
  | .done value _ _ _ => .ok value
  | .stuck fault _ _ => .error fault

/-- Whether or not a value was read, the tokens left are the last of the input. -/
theorem rest_suffix (reading : Reading ν α least input) : reading.rest <:+ input := by
  cases reading <;> assumption

/-- The value that needs no token. -/
def nothing (value : α) : Reading ν α 0 input :=
  .done value input List.suffix_rfl (Nat.le_refl _)

/-- The fault met at the first token. -/
def fault (fault : GrammarFault) : Reading ν α least input :=
  .stuck fault input List.suffix_rfl

/-- Go on with the tokens left after a value. -/
def andThen {further : Nat} (reading : Reading ν α least input)
    (next : α → (rest : List (Token ν)) → rest.length + least ≤ input.length →
      Reading ν β further rest) : Reading ν β least input :=
  match reading with
  | .stuck fault rest suffix => .stuck fault rest suffix
  | .done value rest suffix shorter =>
    match next value rest shorter with
    | .stuck fault rest' suffix' => .stuck fault rest' (suffix'.trans suffix)
    | .done value' rest' suffix' shorter' =>
      .done value' rest' (suffix'.trans suffix) (by omega)

/-- Compute with the value. -/
def map (f : α → β) : Reading ν α least input → Reading ν β least input
  | .stuck fault rest suffix => .stuck fault rest suffix
  | .done value rest suffix shorter => .done (f value) rest suffix shorter

/-- The same reading, with a token in front that has been used up. -/
def after (token : Token ν) : Reading ν α least input → Reading ν α 1 (token :: input)
  | .stuck fault rest suffix => .stuck fault rest (suffix.trans (List.suffix_cons ..))
  | .done value rest suffix shorter =>
    .done value rest (suffix.trans (List.suffix_cons ..)) (by simp only [List.length_cons]; omega)

/-- The same reading, with no claim on how much it uses up. -/
def loosen : Reading ν α least input → Reading ν α 0 input
  | .stuck fault rest suffix => .stuck fault rest suffix
  | .done value rest suffix shorter => .done value rest suffix (by omega)

/-- A value, or the fault at the first token. -/
def ofExcept : Except GrammarFault α → Reading ν α 0 input
  | .ok value => nothing value
  | .error reason => fault reason

end Reading

/-- The two levels of operators that are grouped to the left. -/
inductive Level where
  | sum
  | product
  deriving DecidableEq, Repr

/-- How many levels of operators a chain of this level may hold. -/
def Level.depth : Level → Nat
  | .sum => 2
  | .product => 1

/-- There are two levels. -/
theorem Level.depth_le (level : Level) : level.depth ≤ 2 := by
  cases level <;> decide

/-- The operation that an operator character stands for at a level. -/
def Level.operation? : Level → Char → Option Operation
  | .sum, '+' => some .add
  | .sum, '-' => some .sub
  | .product, '*' => some .mul
  | .product, '/' => some .div
  | _, _ => none

/-- The opposite of an operand. A minus sign in front of a literal belongs to
the literal. -/
def opposite [Scalar ν] : Expr ν → Expr ν
  | .literal value => .literal (Scalar.negate value)
  | operand => .neg operand

/-- The operation that is written as a call with two arguments. -/
def binaryCall? (name : String) : Option Operation :=
  if name = "pow" then some .pow
  else if name = "atan2" then some .atan2
  else none

/-- The call of `name` with the given arguments. -/
def callOf (name : String) (arguments : List (Expr ν)) : Except GrammarFault (Expr ν) :=
  match binaryCall? name with
  | some operation =>
    match arguments with
    | [left, right] => .ok (.binary operation left right)
    | _ => .error (.wrongArity name 2 arguments.length)
  | none =>
    match Elementary.ofName? name with
    | none => .error (.unknownFunction name)
    | some function =>
      match arguments with
      | [argument] => .ok (.call function argument)
      | _ => .error (.wrongArity name 1 arguments.length)

mutual

/-- Operands joined by the operators of one level. -/
def readChain [Scalar ν] (level : Level) (input : List (Token ν)) : Reading ν (Expr ν) 1 input :=
  (readOperand level input).andThen fun first rest _ => readLinks level first rest
termination_by 16 * input.length + (2 * level.depth + 2)

/-- An operand of one level. -/
def readOperand [Scalar ν] (level : Level) (input : List (Token ν)) :
    Reading ν (Expr ν) 1 input :=
  match level with
  | .sum => readChain .product input
  | .product => readSigned input
termination_by 16 * input.length + (2 * level.depth + 1)
decreasing_by
  all_goals simp only [Level.depth]; omega

/-- The operators and operands of one level that follow `left`, grouped to the
left. -/
def readLinks [Scalar ν] (level : Level) (left : Expr ν) (input : List (Token ν)) :
    Reading ν (Expr ν) 0 input :=
  match input with
  | .operator character :: rest =>
    match level.operation? character with
    | some operation =>
      ((readOperand level rest).andThen fun right rest' _shorter =>
        readLinks level (.binary operation left right) rest').after _ |>.loosen
    | none => .nothing left
  | _ => .nothing left
termination_by 16 * input.length
decreasing_by
  · have := level.depth_le
    simp only [List.length_cons]
    omega
  · simp only [List.length_cons] at _shorter ⊢
    omega

/-- A power with any number of signs in front. -/
def readSigned [Scalar ν] (input : List (Token ν)) : Reading ν (Expr ν) 1 input :=
  match input with
  | .operator '-' :: rest => ((readSigned rest).map opposite).after _
  | .operator '+' :: rest => (readSigned rest).after _
  | tokens => readPower tokens
termination_by 16 * input.length + 2

/-- A primary, raised to a signed operand if `^` follows. -/
def readPower [Scalar ν] (input : List (Token ν)) : Reading ν (Expr ν) 1 input :=
  (readPrimary input).andThen fun base rest _shorter =>
    match rest with
    | .operator character :: rest' =>
      if character = '^' then ((readSigned rest').map (.pow base)).after _ |>.loosen
      else .nothing base
    | _ => .nothing base
termination_by 16 * input.length + 1
decreasing_by
  · omega
  · simp only [List.length_cons] at _shorter
    omega

/-- A number, a symbol, a call, or an expression in parentheses. -/
def readPrimary [Scalar ν] (input : List (Token ν)) : Reading ν (Expr ν) 1 input :=
  match input with
  | .number value :: _ => (Reading.nothing (.literal value)).after _
  | .word name :: .openParen :: rest =>
    (((readArguments rest).andThen fun arguments _ _ =>
      .ofExcept (callOf name arguments)).after _).after _
  | .word name :: _ => (Reading.nothing (.symbol name)).after _
  | .openParen :: rest =>
    ((readChain .sum rest).andThen fun inner rest' _ =>
      match rest' with
      | .closeParen :: _ => (Reading.nothing inner).after _ |>.loosen
      | _ => .fault (.expected [")"])).after _
  | _ => .fault (.expected ["number", "identifier", "'('"])
termination_by 16 * input.length
decreasing_by
  · simp only [List.length_cons]
    omega
  · simp only [List.length_cons, Level.depth]
    omega

/-- The arguments of a call, from after the opening parenthesis to the closing
one. -/
def readArguments [Scalar ν] (input : List (Token ν)) : Reading ν (List (Expr ν)) 1 input :=
  match input with
  | .closeParen :: _ => (Reading.nothing []).after _
  | tokens => readArgumentList tokens
termination_by 16 * input.length + 8

/-- At least one argument, up to the closing parenthesis. -/
def readArgumentList [Scalar ν] (input : List (Token ν)) : Reading ν (List (Expr ν)) 1 input :=
  (readChain .sum input).andThen fun first rest _shorter =>
    match rest with
    | .comma :: rest' => ((readArgumentList rest').map (first :: ·)).after _ |>.loosen
    | .closeParen :: _ => (Reading.nothing [first]).after _ |>.loosen
    | _ => .fault (.expected [",", ")"])
termination_by 16 * input.length + 7
decreasing_by
  · simp only [Level.depth]
    omega
  · simp only [List.length_cons] at _shorter
    omega

end

end Grammar

end KalmanHeader
