import KalmanHeader.Expr.Parser

/-!
# Walking over tokens

The grammar of expressions told by moves over tokens: look at the token at a place, go on
behind it, step back. Nothing here says that a walk ends, that its place stays among the
tokens or that there is a token to step back over. A walk is given fuel for a depth of rules
within rules, and it has no outcome if the fuel runs out or if it steps back from the first
token. The reading functions, whose input gets shorter by what they carry along, say what
such a walk comes to: with fuel beyond a bound in the number of tokens that are left, each
walk has an outcome, and it is that of the reading function.
-/

namespace KalmanHeader

/-- A walk over tokens. It starts at a place, and it ends at a place with a value or with an
error, unless it has no outcome. -/
abbrev TokenWalk (ν α : Type) :=
  ExceptT (ExprError ν) (StateT Nat Option) α

namespace TokenWalk

open Grammar

variable {ν α β : Type}

/-- What comes of a walk from a place. -/
def run (walk : TokenWalk ν α) (place : Nat) : Option (Except (ExprError ν) α × Nat) :=
  StateT.run (ExceptT.run walk) place

section Moves

variable (tokens : List (Token ν))

/-- There is no fuel left. -/
def exhausted : TokenWalk ν α :=
  ExceptT.mk fun _ => none

/-- The token at the place. -/
def peek : TokenWalk ν (Option (Token ν)) := do
  return tokens[← get]?

/-- The token at the place, which is left behind. -/
def next : TokenWalk ν (Option (Token ν)) := do
  let found ← peek tokens
  if found.isSome then modify (· + 1)
  return found

/-- A step back by one token, which there is none of at the start. -/
def stepBack : TokenWalk ν Unit :=
  ExceptT.mk fun
    | 0 => none
    | place + 1 => some (.ok (), place)

/-- The error of a token, or an end, that is not one of those described. -/
def fail (descriptions : List String) : TokenWalk ν α := do
  let found ← peek tokens
  throw (.parse ⟨← get, found, descriptions⟩)

/-- The call of `name` with the given arguments. -/
def call (name : String) (arguments : List (Expr ν)) : TokenWalk ν (Expr ν) :=
  match callOf name arguments with
  | .ok expr => pure expr
  | .error (.expected descriptions) => fail tokens descriptions
  | .error (.unknownFunction name) => throw (.unknownFunction name)
  | .error (.wrongArity name expected found) => throw (.wrongArity name expected found)

end Moves

section Rules

variable (tokens : List (Token ν)) [Scalar ν]

mutual

/-- Operands joined by the operators of one level. -/
def chain : Nat → Level → TokenWalk ν (Expr ν)
  | 0, _ => exhausted
  | fuel + 1, level => do
    let first ← operand fuel level
    links fuel level first

/-- An operand of one level. -/
def operand : Nat → Level → TokenWalk ν (Expr ν)
  | 0, _ => exhausted
  | fuel + 1, .sum => chain fuel .product
  | fuel + 1, .product => signed fuel

/-- The operators and operands of one level that follow `left`, grouped to the
left. -/
def links : Nat → Level → Expr ν → TokenWalk ν (Expr ν)
  | 0, _, _ => exhausted
  | fuel + 1, level, left => do
    match ← peek tokens with
    | some (.operator character) =>
      match level.operation? character with
      | some operation =>
        let _ ← next tokens
        let right ← operand fuel level
        links fuel level (.binary operation left right)
      | none => return left
    | _ => return left

/-- A power with any number of signs in front. -/
def signed : Nat → TokenWalk ν (Expr ν)
  | 0 => exhausted
  | fuel + 1 => do
    match ← peek tokens with
    | some (.operator '-') =>
      let _ ← next tokens
      let inner ← signed fuel
      return opposite inner
    | some (.operator '+') =>
      let _ ← next tokens
      signed fuel
    | _ => power fuel

/-- A primary, raised to a signed operand if `^` follows. -/
def power : Nat → TokenWalk ν (Expr ν)
  | 0 => exhausted
  | fuel + 1 => do
    let base ← primary fuel
    match ← peek tokens with
    | some (.operator character) =>
      if character = '^' then
        let _ ← next tokens
        let exponent ← signed fuel
        return .pow base exponent
      else return base
    | _ => return base

/-- A number, a symbol, a call, or an expression in parentheses. A token that begins none of
them is stepped back over. -/
def primary : Nat → TokenWalk ν (Expr ν)
  | 0 => exhausted
  | fuel + 1 => do
    match ← next tokens with
    | some (.number value) => return .literal value
    | some (.word name) =>
      match ← peek tokens with
      | some .openParen =>
        let _ ← next tokens
        let given ← arguments fuel
        call tokens name given
      | _ => return .symbol name
    | some .openParen =>
      let inner ← chain fuel .sum
      match ← peek tokens with
      | some .closeParen =>
        let _ ← next tokens
        return inner
      | _ => fail tokens [")"]
    | some _ =>
      stepBack
      fail tokens ["number", "identifier", "'('"]
    | none => fail tokens ["number", "identifier", "'('"]

/-- The arguments of a call, from behind the opening parenthesis to behind the closing
one. -/
def arguments : Nat → TokenWalk ν (List (Expr ν))
  | 0 => exhausted
  | fuel + 1 => do
    match ← peek tokens with
    | some .closeParen =>
      let _ ← next tokens
      return []
    | _ => argumentList fuel

/-- At least one argument, and the closing parenthesis. -/
def argumentList : Nat → TokenWalk ν (List (Expr ν))
  | 0 => exhausted
  | fuel + 1 => do
    let first ← chain fuel .sum
    match ← peek tokens with
    | some .comma =>
      let _ ← next tokens
      let others ← argumentList fuel
      return first :: others
    | some .closeParen =>
      let _ ← next tokens
      return [first]
    | _ => fail tokens [",", ")"]

end

/-- An expression that has to be all that is left. -/
def whole (fuel : Nat) : TokenWalk ν (Expr ν) := do
  let expr ← chain tokens fuel .sum
  match ← peek tokens with
  | some _ => fail tokens ["operator", "<end>"]
  | none => return expr

end Rules

section Outcomes

variable {tokens : List (Token ν)} {walk : TokenWalk ν α} {place place' : Nat}

/-- What comes after a value starts where that ended. -/
theorem run_bind_ok {after : α → TokenWalk ν β} {value : α}
    (first : walk.run place = some (.ok value, place')) :
    run (walk >>= after) place = run (after value) place' := by
  have ran : (ExceptT.run walk).run place = some (.ok value, place') := first
  rw [run, ExceptT.run_bind, StateT.run_bind, ran]
  rfl

/-- Nothing comes after an error. -/
theorem run_bind_error {after : α → TokenWalk ν β} {error : ExprError ν}
    (first : walk.run place = some (.error error, place')) :
    run (walk >>= after) place = some (.error error, place') := by
  have ran : (ExceptT.run walk).run place = some (.error error, place') := first
  rw [run, ExceptT.run_bind, StateT.run_bind, ran]
  rfl

/-- Looking at a token stays at the place. -/
theorem run_peek : run (peek tokens) place = some (.ok tokens[place]?, place) :=
  rfl

/-- A token that is there is left behind. -/
theorem run_next_of_some {token : Token ν} (found : tokens[place]? = some token) :
    run (next tokens) place = some (.ok (some token), place + 1) := by
  rw [next, run_bind_ok run_peek, found]
  rfl

/-- At the end there is nothing to leave behind. -/
theorem run_next_of_none (absent : tokens[place]? = none) :
    run (next tokens) place = some (.ok none, place) := by
  rw [next, run_bind_ok run_peek, absent]
  rfl

/-- Behind a token there is room for a step back. -/
theorem run_stepBack : run (stepBack (ν := ν)) (place + 1) = some (.ok (), place) :=
  rfl

/-- A failure names the place and the token there. -/
theorem run_fail {descriptions : List String} :
    run (fail tokens descriptions : TokenWalk ν α) place =
      some (.error (.parse ⟨place, tokens[place]?, descriptions⟩), place) :=
  rfl

end Outcomes

section Readings

variable {tokens input rest : List (Token ν)} {least further : Nat} {walk : TokenWalk ν α}
  {reading : Reading ν α least input}

/-- Where the last of the tokens begin. -/
def placeOf (tokens input : List (Token ν)) : Nat :=
  tokens.length - input.length

/-- The token at the place of the last tokens is the first of them. -/
theorem getElem?_placeOf (suffix : input <:+ tokens) :
    tokens[placeOf tokens input]? = input.head? := by
  obtain ⟨before, rfl⟩ := suffix
  rw [placeOf, List.length_append, Nat.add_sub_cancel, List.getElem?_append_right (Nat.le_refl _),
    Nat.sub_self, List.head?_eq_getElem?]

/-- Behind the first of the last tokens the others begin. -/
theorem placeOf_cons {token : Token ν} (suffix : token :: rest <:+ tokens) :
    placeOf tokens (token :: rest) + 1 = placeOf tokens rest := by
  have shorter := suffix.length_le
  rw [List.length_cons] at shorter
  rw [placeOf, placeOf, List.length_cons]
  omega

/-- What a reading of the last tokens comes to for a parser that stands in front of them: the
value or the error, and the place where the parser then stands. -/
def ending (suffix : input <:+ tokens) (reading : Reading ν α least input) :
    Except (ExprError ν) α × Nat :=
  let advanced := Parser.advance ⟨tokens, input, suffix⟩ reading
  (advanced.1, advanced.2.position)

/-- Whether a walk from where `input` begins comes to what a reading of `input` comes to,
wherever `input` is the last of the tokens. -/
def Follows (tokens : List (Token ν)) (walk : TokenWalk ν α) (reading : Reading ν α least input) :
    Prop :=
  ∀ suffix : input <:+ tokens, walk.run (placeOf tokens input) = some (ending suffix reading)

/-- A value that needs no token. -/
theorem follows_pure (value : α) :
    Follows tokens (pure value) (.nothing value : Reading ν α 0 input) :=
  fun _ => rfl

/-- The fault at the first token. -/
theorem follows_fail (descriptions : List String) :
    Follows tokens (fail tokens descriptions)
      (.fault (.expected descriptions) : Reading ν α least input) := by
  intro suffix
  rw [run_fail, getElem?_placeOf suffix]
  rfl

/-- A call is read without a token. -/
theorem follows_call (name : String) (arguments : List (Expr ν)) :
    Follows tokens (call tokens name arguments)
      (.ofExcept (callOf name arguments) : Reading ν (Expr ν) 0 input) := by
  unfold call
  cases callOf name arguments with
  | ok expr => exact follows_pure expr
  | error fault =>
    cases fault with
    | expected descriptions => exact follows_fail descriptions
    | unknownFunction name | wrongArity name expected found => exact fun _ => rfl

/-- Looking at a token finds the first of the input. -/
theorem Follows.peek {after : Option (Token ν) → TokenWalk ν α}
    (follows : Follows tokens (after input.head?) reading) :
    Follows tokens (peek tokens >>= after) reading := by
  intro suffix
  rw [run_bind_ok run_peek, getElem?_placeOf suffix]
  exact follows suffix

/-- Going on behind the first token of the input. -/
theorem Follows.next {token : Token ν} {reading : Reading ν α least rest}
    {after : Option (Token ν) → TokenWalk ν α}
    (follows : Follows tokens (after (some token)) reading) :
    Follows tokens (next tokens >>= after) (reading.after token) := by
  intro suffix
  have found := getElem?_placeOf suffix
  rw [run_bind_ok (run_next_of_some found), placeOf_cons suffix,
    follows ((List.suffix_cons token rest).trans suffix)]
  cases reading <;> rfl

/-- What is claimed about the tokens that are used up plays no part. -/
theorem Follows.loosen (follows : Follows tokens walk reading) :
    Follows tokens walk reading.loosen := by
  intro suffix
  rw [follows suffix]
  cases reading <;> rfl

/-- One walk after another. -/
theorem Follows.bind {after : α → TokenWalk ν β}
    {next : α → (rest : List (Token ν)) → rest.length + least ≤ input.length →
      Reading ν β further rest}
    (first : Follows tokens walk reading)
    (second : ∀ value rest shorter, Follows tokens (after value) (next value rest shorter)) :
    Follows tokens (walk >>= after) (reading.andThen next) := by
  intro suffix
  cases reading with
  | stuck fault rest suffix' => exact run_bind_error (first suffix)
  | done value rest suffix' shorter =>
    have ran : walk.run (placeOf tokens input) = some (.ok value, placeOf tokens rest) :=
      first suffix
    rw [run_bind_ok ran, second value rest shorter (suffix'.trans suffix)]
    cases followed : next value rest shorter with
    | stuck fault rest' suffix'' | done value' rest' suffix'' shorter' =>
      simp only [Reading.andThen, followed]
      rfl

/-- Computing with the value. -/
theorem Follows.map {f : α → β} (follows : Follows tokens walk reading) :
    Follows tokens (do return f (← walk)) (reading.map f) := by
  intro suffix
  cases reading with
  | stuck fault rest suffix' => exact run_bind_error (follows suffix)
  | done value rest suffix' shorter => exact run_bind_ok (follows suffix)

end Readings

section Agreement

variable {tokens input rest : List (Token ν)} {least bound : Nat} {level : Level} {left : Expr ν}
  {name : String}

/-- Whether a walk with more fuel than `bound` comes to what a reading comes to. -/
def FollowsBeyond (tokens : List (Token ν)) (bound : Nat) (walk : Nat → TokenWalk ν α)
    (reading : Reading ν α least input) : Prop :=
  ∀ fuel, bound < fuel → Follows tokens (walk fuel) reading

/-- With more fuel than `bound` there is some to use up. -/
theorem FollowsBeyond.of_succ {walk : Nat → TokenWalk ν α} {reading : Reading ν α least input}
    (step : ∀ fuel, bound ≤ fuel → Follows tokens (walk (fuel + 1)) reading) :
    FollowsBeyond tokens bound walk reading := by
  intro fuel enough
  cases fuel with
  | zero => exact absurd enough (Nat.not_lt_zero bound)
  | succ fuel => exact step fuel (Nat.le_of_lt_succ enough)

variable [Scalar ν]

-- The bounds are the measures by which the reading functions end: sixteen for each token that
-- is left, and the rest for the rules that lead to one another without using up a token.

/-- Whether the walk of a chain does what reading a chain does. -/
def ChainFollows (tokens : List (Token ν)) (level : Level) (input : List (Token ν)) : Prop :=
  FollowsBeyond tokens (16 * input.length + (2 * level.depth + 2))
    (fun fuel => chain tokens fuel level) (readChain level input)

/-- Whether the walk of an operand does what reading an operand does. -/
def OperandFollows (tokens : List (Token ν)) (level : Level) (input : List (Token ν)) : Prop :=
  FollowsBeyond tokens (16 * input.length + (2 * level.depth + 1))
    (fun fuel => operand tokens fuel level) (readOperand level input)

/-- Whether the walk of links does what reading links does. -/
def LinksFollow (tokens : List (Token ν)) (level : Level) (left : Expr ν)
    (input : List (Token ν)) : Prop :=
  FollowsBeyond tokens (16 * input.length) (fun fuel => links tokens fuel level left)
    (readLinks level left input)

/-- Whether the walk of a signed operand does what reading one does. -/
def SignedFollows (tokens input : List (Token ν)) : Prop :=
  FollowsBeyond tokens (16 * input.length + 2) (signed tokens) (readSigned input)

/-- Whether the walk of a power does what reading a power does. -/
def PowerFollows (tokens input : List (Token ν)) : Prop :=
  FollowsBeyond tokens (16 * input.length + 1) (power tokens) (readPower input)

/-- Whether the walk of a primary does what reading a primary does. -/
def PrimaryFollows (tokens input : List (Token ν)) : Prop :=
  FollowsBeyond tokens (16 * input.length) (primary tokens) (readPrimary input)

/-- Whether the walk of arguments does what reading arguments does. -/
def ArgumentsFollow (tokens input : List (Token ν)) : Prop :=
  FollowsBeyond tokens (16 * input.length + 8) (arguments tokens) (readArguments input)

/-- Whether the walk of at least one argument does what reading them does. -/
def ArgumentListFollows (tokens input : List (Token ν)) : Prop :=
  FollowsBeyond tokens (16 * input.length + 7) (argumentList tokens) (readArgumentList input)

omit [Scalar ν] in
/-- An input that does not begin with a token has another first token, or none. -/
theorem head?_ne {token : Token ν} (absent : ∀ rest, input = token :: rest → False) :
    input.head? ≠ some token := by
  intro found
  obtain ⟨rest, same⟩ := List.head?_eq_some_iff.1 found
  exact absent rest same

/-- A chain is an operand and links. -/
theorem chainFollows (operands : OperandFollows tokens level input)
    (more : ∀ first rest, rest.length + 1 ≤ input.length → LinksFollow tokens level first rest) :
    ChainFollows tokens level input := by
  refine .of_succ fun fuel enough => ?_
  rw [chain, readChain]
  refine (operands fuel (by omega)).bind fun first rest shorter => ?_
  exact more first rest shorter fuel (by omega)

/-- The operands of a sum are products. -/
theorem operandFollows_sum (products : ChainFollows tokens .product input) :
    OperandFollows tokens .sum input := by
  refine .of_succ fun fuel enough => ?_
  rw [operand, readOperand]
  simp only [Level.depth] at enough
  exact products fuel (by simp only [Level.depth]; omega)

/-- The operands of a product are signed. -/
theorem operandFollows_product (signeds : SignedFollows tokens input) :
    OperandFollows tokens .product input := by
  refine .of_succ fun fuel enough => ?_
  rw [operand, readOperand]
  simp only [Level.depth] at enough
  exact signeds fuel (by omega)

/-- A link is an operator and an operand. -/
theorem linksFollow_link {character : Char} {operation : Operation}
    (known : level.operation? character = some operation)
    (operands : OperandFollows tokens level rest)
    (more : ∀ right rest', rest'.length + 1 ≤ rest.length →
      LinksFollow tokens level (.binary operation left right) rest') :
    LinksFollow tokens level left (.operator character :: rest) := by
  refine .of_succ fun fuel enough => ?_
  have depth := level.depth_le
  rw [List.length_cons] at enough
  rw [links]
  refine Follows.peek ?_
  unfold readLinks
  simp only [List.head?_cons, known]
  refine Follows.loosen (Follows.next ?_)
  refine (operands fuel (by omega)).bind fun right rest' shorter => ?_
  exact more right rest' shorter fuel (by omega)

/-- Where no operator of the level follows, there are no links. -/
theorem linksFollow_stop
    (stop : ∀ token ∈ input.head?, ∀ character, token = .operator character →
      level.operation? character = none) : LinksFollow tokens level left input := by
  refine .of_succ fun fuel _ => ?_
  rw [links]
  refine Follows.peek ?_
  unfold readLinks
  cases input with
  | nil => exact follows_pure left
  | cons token rest =>
    simp only [List.head?_cons]
    cases token with
    | operator character =>
      have none := stop _ rfl character rfl
      simp only [none]
      exact follows_pure left
    | number | word | openParen | closeParen | comma => exact follows_pure left

/-- A minus sign turns an operand into its opposite. -/
theorem signedFollows_minus (signeds : SignedFollows tokens rest) :
    SignedFollows tokens (.operator '-' :: rest) := by
  refine .of_succ fun fuel enough => ?_
  rw [List.length_cons] at enough
  rw [signed, readSigned]
  exact Follows.peek (signeds fuel (by omega)).map.next

/-- A plus sign changes nothing. -/
theorem signedFollows_plus (signeds : SignedFollows tokens rest) :
    SignedFollows tokens (.operator '+' :: rest) := by
  refine .of_succ fun fuel enough => ?_
  rw [List.length_cons] at enough
  rw [signed, readSigned]
  exact Follows.peek (signeds fuel (by omega)).next

/-- Without a sign in front, a signed operand is a power. -/
theorem signedFollows_power (noMinus : ∀ rest, input = .operator '-' :: rest → False)
    (noPlus : ∀ rest, input = .operator '+' :: rest → False)
    (powers : PowerFollows tokens input) : SignedFollows tokens input := by
  refine .of_succ fun fuel enough => ?_
  rw [signed, readSigned]
  · refine Follows.peek ?_
    split
    · rename_i found
      exact absurd found (head?_ne noMinus)
    · rename_i found
      exact absurd found (head?_ne noPlus)
    · exact powers fuel (by omega)
  · exact noMinus
  · exact noPlus

/-- A power is a primary, or one that is raised to a signed operand. -/
theorem powerFollows (primaries : PrimaryFollows tokens input)
    (exponents : ∀ (character : Char) (rest : List (Token ν)),
      (Token.operator character :: rest).length + 1 ≤ input.length → SignedFollows tokens rest) :
    PowerFollows tokens input := by
  refine .of_succ fun fuel enough => ?_
  rw [power, readPower]
  refine (primaries fuel (by omega)).bind fun base rest shorter => Follows.peek ?_
  cases rest with
  | nil => exact follows_pure base
  | cons token rest' =>
    cases token with
    | operator character =>
      have signeds := exponents character rest' shorter fuel
        (by rw [List.length_cons] at shorter; omega)
      simp only [List.head?_cons]
      split
      · exact signeds.map.next.loosen
      · exact follows_pure base
    | number | word | openParen | closeParen | comma => exact follows_pure base

/-- A number is a literal. -/
theorem primaryFollows_number (value : ν) : PrimaryFollows tokens (.number value :: rest) := by
  refine .of_succ fun fuel _ => ?_
  rw [primary, readPrimary]
  refine Follows.next ?_
  exact follows_pure _

/-- A name in front of a parenthesis is the name of a call. -/
theorem primaryFollows_call (lists : ArgumentsFollow tokens rest) :
    PrimaryFollows tokens (.word name :: .openParen :: rest) := by
  refine .of_succ fun fuel enough => ?_
  rw [List.length_cons, List.length_cons] at enough
  rw [primary, readPrimary]
  have called := (lists fuel (by omega)).bind fun given _ _ => follows_call name given
  exact (Follows.peek called.next).next

/-- Any other name is a symbol. -/
theorem primaryFollows_symbol (noCall : ∀ rest', rest = .openParen :: rest' → False) :
    PrimaryFollows tokens (.word name :: rest) := by
  refine .of_succ fun fuel _ => ?_
  rw [primary, readPrimary]
  · refine Follows.next (Follows.peek ?_)
    split
    · rename_i found
      exact absurd found (head?_ne noCall)
    · exact follows_pure _
  · exact noCall

/-- Parentheses enclose a sum. -/
theorem primaryFollows_enclosed (sums : ChainFollows tokens .sum rest) :
    PrimaryFollows tokens (.openParen :: rest) := by
  refine .of_succ fun fuel enough => ?_
  rw [List.length_cons] at enough
  rw [primary, readPrimary]
  have sum := sums fuel (by simp only [Level.depth]; omega)
  refine Follows.next (sum.bind fun inner rest' _ => Follows.peek ?_)
  cases rest' with
  | nil => exact follows_fail _
  | cons token rest'' =>
    cases token with
    | closeParen => exact (follows_pure inner).next.loosen
    | number | word | openParen | operator | comma => exact follows_fail _

/-- Nothing else is a primary, and the token that shows it is stepped back over. -/
theorem primaryFollows_none (noNumber : ∀ value rest, input = .number value :: rest → False)
    (noCall : ∀ name rest, input = .word name :: .openParen :: rest → False)
    (noSymbol : ∀ name rest, input = .word name :: rest → False)
    (noParen : ∀ rest, input = .openParen :: rest → False) : PrimaryFollows tokens input := by
  refine .of_succ fun fuel _ => ?_
  rw [primary, readPrimary]
  · intro suffix
    have fails : Follows tokens (fail tokens ["number", "identifier", "'('"])
        (.fault (.expected ["number", "identifier", "'('"]) : Reading ν (Expr ν) 1 input) :=
      follows_fail _
    have found := getElem?_placeOf suffix
    cases input with
    | nil =>
      rw [run_bind_ok (run_next_of_none found)]
      exact fails suffix
    | cons token rest =>
      rw [run_bind_ok (run_next_of_some found)]
      cases token with
      | number value => exact absurd rfl (noNumber value rest)
      | word name => exact absurd rfl (noSymbol name rest)
      | openParen => exact absurd rfl (noParen rest)
      | closeParen | comma | operator => exact (run_bind_ok run_stepBack).trans (fails suffix)
  · exact noNumber
  · exact noCall
  · exact noSymbol
  · exact noParen

/-- A closing parenthesis ends the arguments. -/
theorem argumentsFollow_closeParen : ArgumentsFollow tokens (.closeParen :: rest) := by
  refine .of_succ fun fuel _ => ?_
  rw [arguments, readArguments]
  exact Follows.peek (follows_pure []).next

/-- Without a closing parenthesis in front, there is at least one argument. -/
theorem argumentsFollow_list (noParen : ∀ rest, input = .closeParen :: rest → False)
    (lists : ArgumentListFollows tokens input) : ArgumentsFollow tokens input := by
  refine .of_succ fun fuel enough => ?_
  rw [arguments, readArguments]
  · refine Follows.peek ?_
    split
    · rename_i found
      exact absurd found (head?_ne noParen)
    · exact lists fuel (by omega)
  · exact noParen

/-- At least one argument is a sum, and then another list or the closing parenthesis. -/
theorem argumentListFollows (sums : ChainFollows tokens .sum input)
    (lists : ∀ rest : List (Token ν), (Token.comma :: rest).length + 1 ≤ input.length →
      ArgumentListFollows tokens rest) : ArgumentListFollows tokens input := by
  refine .of_succ fun fuel enough => ?_
  rw [argumentList, readArgumentList]
  have sum := sums fuel (by simp only [Level.depth]; omega)
  refine sum.bind fun first rest shorter => Follows.peek ?_
  cases rest with
  | nil => exact follows_fail _
  | cons token rest' =>
    cases token with
    | comma =>
      have others := lists rest' shorter fuel (by rw [List.length_cons] at shorter; omega)
      exact others.map.next.loosen
    | closeParen => exact (follows_pure [first]).next.loosen
    | number | word | openParen | operator => exact follows_fail _

/-- The walk of a sum does what reading a sum does. -/
theorem chainFollows_sum (tokens input : List (Token ν)) : ChainFollows tokens .sum input := by
  -- The induction is on the calls of the reading functions, whose measures are the bounds.
  refine (readChain.mutual_induct (ChainFollows tokens) (LinksFollow tokens)
    (OperandFollows tokens) (SignedFollows tokens) (PowerFollows tokens) (PrimaryFollows tokens)
    (ArgumentsFollow tokens) (ArgumentListFollows tokens)
    ?chain ?link ?other ?stop ?products ?operands ?minus ?plus ?unsigned ?power ?number ?call
    ?symbol ?enclosed ?none ?closed ?arguments ?list).1 .sum input
  case chain => exact fun _ _ => chainFollows
  case link => exact fun _ _ _ _ _ => linksFollow_link
  case other =>
    intro level left character rest none
    refine linksFollow_stop ?_
    rintro token ⟨⟩ character' ⟨⟩
    exact none
  case stop =>
    intro level left input noOperator
    refine linksFollow_stop fun token first character same => ?_
    obtain ⟨rest, found⟩ := List.head?_eq_some_iff.1 first
    exact absurd (same ▸ found) (noOperator character rest)
  case products => exact fun _ => operandFollows_sum
  case operands => exact fun _ => operandFollows_product
  case minus => exact fun _ => signedFollows_minus
  case plus => exact fun _ => signedFollows_plus
  case unsigned => exact fun _ => signedFollows_power
  case power => exact fun _ primaries exponents => powerFollows primaries (exponents [])
  case number => exact fun value _ => primaryFollows_number value
  case call => exact fun _ _ => primaryFollows_call
  case symbol => exact fun _ _ => primaryFollows_symbol
  case enclosed => exact fun _ => primaryFollows_enclosed
  case none => exact fun _ => primaryFollows_none
  case closed => exact fun _ => argumentsFollow_closeParen
  case arguments => exact fun _ => argumentsFollow_list
  case list => exact fun _ sums lists => argumentListFollows sums (lists [])

end Agreement

end TokenWalk

end KalmanHeader
