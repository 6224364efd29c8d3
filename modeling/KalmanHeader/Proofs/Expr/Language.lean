import KalmanHeader.Proofs.Expr.Derivation

/-!
# The language of the reading functions

The reading functions find nothing but derivations: whatever a rule reads, the tokens
that it uses up derive the tree that it gives. Together with the converse this says
which token lists are expressions, and that none of them is two.
-/

namespace KalmanHeader.Grammar

variable {ν α β : Type}

namespace Reading

variable {least : Nat} {input rest rest' : List (Token ν)} {value value' : α} {result : β}

/-- A reading gives one value at most, and leaves the same tokens each time. -/
theorem Gives.unique {reading : Reading ν α least input} (given : reading.Gives value rest)
    (given' : reading.Gives value' rest') : value = value' ∧ rest = rest' := by
  obtain ⟨_, _, same⟩ := given
  obtain ⟨_, _, same'⟩ := given'
  injection same.symm.trans same' with values rests
  exact ⟨values, rests⟩

/-- A reading that needs no token gives its value and leaves the input. -/
theorem Gives.of_nothing (given : (nothing value : Reading ν α 0 input).Gives value' rest) :
    value' = value ∧ rest = input :=
  given.unique gives_nothing

/-- A fault gives nothing. -/
theorem not_gives_fault {reason : GrammarFault} :
    ¬(fault reason : Reading ν α least input).Gives value rest := by
  rintro ⟨suffix, shorter, same⟩
  contradiction

/-- Two readings one after the other both give a value. -/
theorem Gives.of_andThen {further : Nat} {reading : Reading ν α least input}
    {next : α → (rest : List (Token ν)) → rest.length + least ≤ input.length →
      Reading ν β further rest}
    (given : (reading.andThen next).Gives result rest) :
    ∃ value middle, reading.Gives value middle ∧
      ∃ shorter, (next value middle shorter).Gives result rest := by
  obtain ⟨suffix, shorter, same⟩ := given
  cases reading with
  | stuck reason middle suffix' => contradiction
  | done value middle suffix' shorter' =>
    refine ⟨value, middle, ⟨suffix', shorter', rfl⟩, shorter', ?_⟩
    unfold Reading.andThen at same
    cases followed : next value middle shorter' with
    | stuck reason rest' suffix'' =>
      simp only [followed] at same
      contradiction
    | done result' rest' suffix'' shorter'' =>
      simp only [followed] at same
      injection same with results rests
      subst results rests
      exact ⟨suffix'', shorter'', rfl⟩

/-- What is computed is computed from a value. -/
theorem Gives.of_map {reading : Reading ν α least input} {f : α → β}
    (given : (reading.map f).Gives result rest) :
    ∃ value, reading.Gives value rest ∧ result = f value := by
  obtain ⟨suffix, shorter, same⟩ := given
  cases reading with
  | stuck reason middle suffix' => contradiction
  | done value middle suffix' shorter' =>
    injection same with results rests
    subst rests
    exact ⟨value, ⟨suffix', shorter', rfl⟩, results.symm⟩

/-- What is read after a token that has been used up. -/
theorem Gives.of_after {reading : Reading ν α least input} {token : Token ν}
    (given : (reading.after token).Gives value rest) : reading.Gives value rest := by
  obtain ⟨suffix, shorter, same⟩ := given
  cases reading with
  | stuck reason middle suffix' => contradiction
  | done value' middle suffix' shorter' =>
    injection same with values rests
    subst values rests
    exact ⟨suffix', shorter', rfl⟩

/-- What is read with no claim on how much is used up. -/
theorem Gives.of_loosen {reading : Reading ν α least input}
    (given : reading.loosen.Gives value rest) : reading.Gives value rest := by
  obtain ⟨suffix, shorter, same⟩ := given
  cases reading with
  | stuck reason middle suffix' => contradiction
  | done value' middle suffix' shorter' =>
    injection same with values rests
    subst values rests
    exact ⟨suffix', shorter', rfl⟩

/-- A value that may be a fault is no fault where it is given. -/
theorem Gives.of_ofExcept {outcome : Except GrammarFault α}
    (given : (ofExcept outcome : Reading ν α 0 input).Gives value rest) :
    outcome = .ok value ∧ rest = input := by
  cases outcome with
  | error reason => exact absurd given not_gives_fault
  | ok value' =>
    obtain ⟨rfl, same⟩ := given.of_nothing
    exact ⟨rfl, same⟩

end Reading

/-- Tokens that derive arguments, with commas between them and the closing parenthesis
after the last. -/
inductive DerivesList [Scalar ν] : List (Token ν) → List (Expr ν) → Prop
  | last {tokens : List (Token ν)} {expr : Expr ν} :
    Derives (.chain .sum) tokens expr → DerivesList (tokens ++ [.closeParen]) [expr]
  | cons {tokens tokens' : List (Token ν)} {expr : Expr ν} {exprs : List (Expr ν)} :
    Derives (.chain .sum) tokens expr → DerivesList tokens' exprs →
      DerivesList (tokens ++ .comma :: tokens') (expr :: exprs)

section Steps

variable [Scalar ν] {least : Nat} {level : Level} {input rest : List (Token ν)} {left : Expr ν}
  {name : String}

/-- Whether a reading gives nothing but what a rule derives from the tokens it uses up. -/
def Rank.Finds (rank : Rank) (reading : Reading ν (Expr ν) least input) : Prop :=
  ∀ value rest, reading.Gives value rest → ∃ used, input = used ++ rest ∧ Derives rank used value

/-- Whether reading links after a chain gives nothing but longer chains. -/
def Extends (level : Level) (left : Expr ν) (input : List (Token ν)) : Prop :=
  ∀ before, Derives (.chain level) before left →
    ∀ value rest, (readLinks level left input).Gives value rest →
      ∃ used, input = used ++ rest ∧ Derives (.chain level) (before ++ used) value

/-- Whether reading at least one argument gives nothing but what is derived. -/
def FindsList (input : List (Token ν)) : Prop :=
  ∀ (arguments : List (Expr ν)) rest, (readArgumentList input).Gives arguments rest →
    ∃ used, input = used ++ rest ∧ DerivesList used arguments

/-- Whether reading arguments gives none, or nothing but what is derived. -/
def FindsArguments (input : List (Token ν)) : Prop :=
  ∀ (arguments : List (Expr ν)) rest, (readArguments input).Gives arguments rest →
    arguments = [] ∨ ∃ used, input = used ++ rest ∧ DerivesList used arguments

/-- A chain is an operand and links. -/
theorem finds_readChain (operands : level.operandRank.Finds (readOperand level input))
    (links : ∀ (first : Expr ν) rest, rest.length + 1 ≤ input.length → Extends level first rest) :
    (Rank.chain level).Finds (readChain level input) := by
  intro value rest given
  rw [readChain] at given
  obtain ⟨first, middle, operand, shorter, more⟩ := given.of_andThen
  obtain ⟨used, split, derivation⟩ := operands first middle operand
  obtain ⟨used', split', derivation'⟩ := links first middle shorter used (.operand derivation) _ _ more
  exact ⟨used ++ used', by rw [split, split', List.append_assoc], derivation'⟩

/-- Where no operator of the level follows, the chain stays as it is. -/
theorem extends_stop
    (stop : ∀ token ∈ input.head?, ∀ character, token = .operator character →
      level.operation? character = none) : Extends level left input := by
  intro before derivation value final given
  obtain ⟨rfl, rfl⟩ := given.unique (readLinks_stop stop)
  exact ⟨[], rfl, by rwa [List.append_nil]⟩

/-- A link is an operator and an operand. -/
theorem extends_link {character : Char} {operation : Operation}
    (known : level.operation? character = some operation)
    (operands : level.operandRank.Finds (readOperand level rest))
    (links : ∀ right rest', rest'.length + 1 ≤ rest.length →
      Extends level (.binary operation left right) rest') :
    Extends level left (.operator character :: rest) := by
  intro before derivation value final given
  unfold readLinks at given
  split at given
  · rename_i operation' found
    obtain rfl := Option.some.inj (known.symm.trans found)
    obtain ⟨right, middle, operand, shorter, more⟩ := given.of_loosen.of_after.of_andThen
    obtain ⟨used, split, derivation'⟩ := operands right middle operand
    obtain ⟨used', split', derivation''⟩ :=
      links right middle shorter _ (derivation.link known derivation') _ _ more
    refine ⟨.operator character :: (used ++ used'), ?_, ?_⟩
    · rw [split, split', List.cons_append, List.append_assoc]
    · rwa [List.append_assoc, List.cons_append] at derivation''
  · rename_i none
    rw [known] at none
    contradiction

/-- The operands of a sum are products. -/
theorem finds_operand_sum (products : (Rank.chain .product).Finds (readChain .product input)) :
    Level.sum.operandRank.Finds (readOperand .sum input) := by
  rw [readOperand]
  exact products

/-- The operands of a product are signed. -/
theorem finds_operand_product (signed : Rank.signed.Finds (readSigned input)) :
    Level.product.operandRank.Finds (readOperand .product input) := by
  rw [readOperand]
  exact signed

/-- A minus sign turns an operand into its opposite. -/
theorem finds_minus (signed : Rank.signed.Finds (readSigned rest)) :
    Rank.signed.Finds (readSigned (.operator '-' :: rest)) := by
  intro value final given
  rw [readSigned] at given
  obtain ⟨operand, found, rfl⟩ := given.of_after.of_map
  obtain ⟨used, split, derivation⟩ := signed operand final found
  exact ⟨.operator '-' :: used, by rw [split, List.cons_append], .minus derivation⟩

/-- A plus sign changes nothing. -/
theorem finds_plus (signed : Rank.signed.Finds (readSigned rest)) :
    Rank.signed.Finds (readSigned (.operator '+' :: rest)) := by
  intro value final given
  rw [readSigned] at given
  obtain ⟨used, split, derivation⟩ := signed value final given.of_after
  exact ⟨.operator '+' :: used, by rw [split, List.cons_append], .plus derivation⟩

/-- Without a sign in front, a signed operand is a power. -/
theorem finds_unsigned (noMinus : ∀ rest, input = .operator '-' :: rest → False)
    (noPlus : ∀ rest, input = .operator '+' :: rest → False)
    (powers : Rank.power.Finds (readPower input)) : Rank.signed.Finds (readSigned input) := by
  intro value rest given
  rw [readSigned] at given
  · obtain ⟨used, split, derivation⟩ := powers value rest given
    exact ⟨used, split, .unsigned derivation⟩
  · exact noMinus
  · exact noPlus

/-- A power is a primary, or one that is raised to a signed operand. -/
theorem finds_readPower (primaries : Rank.primary.Finds (readPrimary input))
    (exponents : ∀ (character : Char) (rest : List (Token ν)),
      (Token.operator character :: rest).length + 1 ≤ input.length →
        Rank.signed.Finds (readSigned rest)) : Rank.power.Finds (readPower input) := by
  intro value rest given
  rw [readPower] at given
  obtain ⟨base, middle, primary, shorter, raised⟩ := given.of_andThen
  obtain ⟨used, split, derivation⟩ := primaries base middle primary
  split at raised
  · rename_i character input' shorter
    split at raised
    · rename_i caret
      obtain ⟨exponent, signed, rfl⟩ := raised.of_loosen.of_after.of_map
      obtain ⟨used', split', derivation'⟩ := exponents character input' shorter exponent rest signed
      refine ⟨used ++ .operator '^' :: used', ?_, derivation.raised derivation'⟩
      rw [split, caret, split', List.append_assoc, List.cons_append]
    · obtain ⟨rfl, rfl⟩ := raised.of_nothing
      exact ⟨used, split, .base derivation⟩
  · obtain ⟨rfl, rfl⟩ := raised.of_nothing
    exact ⟨used, split, .base derivation⟩

/-- A number is a literal. -/
theorem finds_number (value : ν) : Rank.primary.Finds (readPrimary (.number value :: rest)) := by
  intro found final given
  rw [readPrimary] at given
  obtain ⟨rfl, rfl⟩ := given.of_after.of_nothing
  exact ⟨[.number value], rfl, .number value⟩

/-- A name with arguments that build an expression derives it. -/
theorem derives_of_list {tokens : List (Token ν)} {arguments : List (Expr ν)} {expr : Expr ν}
    (list : DerivesList tokens arguments) (called : callOf name arguments = .ok expr) :
    Derives .primary (.word name :: .openParen :: tokens) expr := by
  cases list with
  | last derivation => exact derivation.function called
  | cons first others =>
    cases others with
    | last second => exact first.operation second called
    | cons _ more => cases builds_of_callOf called <;> nomatch more

/-- A name in front of a parenthesis is the name of a call. -/
theorem finds_call (lists : FindsArguments rest) :
    Rank.primary.Finds (readPrimary (.word name :: .openParen :: rest)) := by
  intro value final given
  rw [readPrimary] at given
  obtain ⟨arguments, middle, list, _, called⟩ := given.of_after.of_after.of_andThen
  obtain ⟨known, rfl⟩ := called.of_ofExcept
  rcases lists arguments final list with rfl | ⟨used, split, derivations⟩
  · cases builds_of_callOf known
  · refine ⟨.word name :: .openParen :: used, ?_, derives_of_list derivations known⟩
    rw [split, List.cons_append, List.cons_append]

/-- Any other name is a symbol. -/
theorem finds_symbol (noCall : ∀ rest', rest = .openParen :: rest' → False) :
    Rank.primary.Finds (readPrimary (.word name :: rest)) := by
  intro value final given
  rw [readPrimary] at given
  · obtain ⟨rfl, rfl⟩ := given.of_after.of_nothing
    exact ⟨[.word name], rfl, .symbol name⟩
  · exact noCall

/-- Parentheses enclose a sum. -/
theorem finds_enclosed (sums : (Rank.chain .sum).Finds (readChain .sum rest)) :
    Rank.primary.Finds (readPrimary (.openParen :: rest)) := by
  intro value final given
  rw [readPrimary] at given
  obtain ⟨inner, middle, chain, _, closed⟩ := given.of_after.of_andThen
  obtain ⟨used, split, derivation⟩ := sums inner middle chain
  split at closed
  · obtain ⟨rfl, rfl⟩ := closed.of_loosen.of_after.of_nothing
    refine ⟨.openParen :: (used ++ [.closeParen]), ?_, .enclosed derivation⟩
    rw [split, List.cons_append, List.append_assoc, List.singleton_append]
  · exact absurd closed Reading.not_gives_fault

/-- Nothing else is a primary. -/
theorem finds_none (noNumber : ∀ value rest, input = .number value :: rest → False)
    (noCall : ∀ name rest, input = .word name :: .openParen :: rest → False)
    (noSymbol : ∀ name rest, input = .word name :: rest → False)
    (noParen : ∀ rest, input = .openParen :: rest → False) :
    Rank.primary.Finds (readPrimary input) := by
  intro value final given
  rw [readPrimary] at given
  · exact absurd given Reading.not_gives_fault
  · exact noNumber
  · exact noCall
  · exact noSymbol
  · exact noParen

/-- A closing parenthesis ends the arguments. -/
theorem findsArguments_closeParen : FindsArguments (.closeParen :: rest) := by
  intro arguments final given
  rw [readArguments] at given
  exact .inl given.of_after.of_nothing.1

/-- Without a closing parenthesis in front, there is at least one argument. -/
theorem findsArguments_of_list (noParen : ∀ rest, input = .closeParen :: rest → False)
    (list : FindsList input) : FindsArguments input := by
  intro arguments rest given
  rw [readArguments] at given
  · exact .inr (list arguments rest given)
  · exact noParen

/-- At least one argument is a sum, and then another list or the closing parenthesis. -/
theorem findsList_of_sum (sums : (Rank.chain .sum).Finds (readChain .sum input))
    (lists : ∀ rest : List (Token ν), (Token.comma :: rest).length + 1 ≤ input.length →
      FindsList rest) : FindsList input := by
  intro arguments rest given
  rw [readArgumentList] at given
  obtain ⟨first, middle, chain, shorter, more⟩ := given.of_andThen
  obtain ⟨used, split, derivation⟩ := sums first middle chain
  split at more
  · rename_i input' shorter
    obtain ⟨others, list, rfl⟩ := more.of_loosen.of_after.of_map
    obtain ⟨used', split', derivations⟩ := lists input' shorter others rest list
    refine ⟨used ++ .comma :: used', ?_, .cons derivation derivations⟩
    rw [split, split', List.append_assoc, List.cons_append]
  · obtain ⟨rfl, rfl⟩ := more.of_loosen.of_after.of_nothing
    refine ⟨used ++ [.closeParen], ?_, .last derivation⟩
    rw [split, List.append_assoc, List.singleton_append]
  · exact absurd more Reading.not_gives_fault

end Steps

/-- What is read as a sum is derived. -/
theorem finds_readChain_sum [Scalar ν] (input : List (Token ν)) :
    (Rank.chain .sum).Finds (readChain .sum input) := by
  refine (readChain.mutual_induct
    (fun level input => (Rank.chain level).Finds (readChain level input)) Extends
    (fun level input => level.operandRank.Finds (readOperand level input))
    (fun input => Rank.signed.Finds (readSigned input))
    (fun input => Rank.power.Finds (readPower input))
    (fun input => Rank.primary.Finds (readPrimary input))
    FindsArguments FindsList
    ?chain ?link ?other ?stop ?products ?operands ?minus ?plus ?unsigned ?power ?number ?call
    ?symbol ?enclosed ?none ?closed ?arguments ?list).1 .sum input
  case chain => exact fun _ _ => finds_readChain
  case link => exact fun _ _ _ _ _ => extends_link
  case other =>
    intro level left character rest none
    refine extends_stop ?_
    rintro token ⟨⟩ character' ⟨⟩
    exact none
  case stop =>
    intro level left input noOperator
    refine extends_stop fun token first character same => ?_
    obtain ⟨rest, found⟩ := List.head?_eq_some_iff.1 first
    exact absurd (same ▸ found) (noOperator character rest)
  case products => exact fun _ => finds_operand_sum
  case operands => exact fun _ => finds_operand_product
  case minus => exact fun _ => finds_minus
  case plus => exact fun _ => finds_plus
  case unsigned => exact fun _ => finds_unsigned
  case power => exact fun _ primaries exponents => finds_readPower primaries (exponents [])
  case number => exact fun value _ => finds_number value
  case call => exact fun _ _ => finds_call
  case symbol => exact fun _ _ => finds_symbol
  case enclosed => exact fun _ => finds_enclosed
  case none => exact fun _ => finds_none
  case closed => exact fun _ => findsArguments_closeParen
  case arguments => exact fun _ => findsArguments_of_list
  case list => exact fun _ sums lists => findsList_of_sum sums (lists [])

end KalmanHeader.Grammar

namespace KalmanHeader.Parser

open Grammar

variable {ν : Type} {tokens : List (Token ν)}

/-- What a parser makes of a reading is what the reading gives. -/
theorem gives_of_advance {α : Type} {least : Nat} {parser : Parser ν}
    {reading : Reading ν α least parser.rest} {value : α}
    (advanced : (parser.advance reading).1 = .ok value) : ∃ rest, reading.Gives value rest := by
  cases reading with
  | stuck reason rest suffix => contradiction
  | done found rest suffix shorter =>
    obtain rfl := Except.ok.inj advanced
    exact ⟨rest, suffix, shorter, rfl⟩

variable [Scalar ν] {expr other : Expr ν}

/-- Tokens that are read completely derive the expression that they are read as. -/
theorem derives_of_parseComplete (complete : (ofTokens tokens).parseComplete.1 = .ok expr) :
    Derives (.chain .sum) tokens expr := by
  obtain ⟨final, given⟩ := gives_of_advance complete
  obtain ⟨value, rest, sum, _, ended⟩ := given.of_andThen
  obtain ⟨used, split, derivation⟩ := finds_readChain_sum _ value rest sum
  split at ended
  · obtain ⟨rfl, _⟩ := ended.of_nothing
    obtain rfl : tokens = used := split.trans (List.append_nil used)
    exact derivation
  · exact absurd ended Reading.not_gives_fault

/-- Tokens derive one expression at most. -/
theorem derives_unique (derivation : Derives (.chain .sum) tokens expr)
    (derivation' : Derives (.chain .sum) tokens other) : expr = other :=
  Except.ok.inj ((Expr.ofTokens_of_derives derivation).symm.trans
    (Expr.ofTokens_of_derives derivation'))

/-- A parser that has read nothing yet reads all its tokens as an expression exactly when
they derive it, which they do for one expression at most. -/
theorem parseComplete_eq_ok_iff (tokens : List (Token ν)) :
    (∀ expr, (ofTokens tokens).parseComplete.1 = .ok expr ↔ Derives (.chain .sum) tokens expr) ∧
      ∀ expr other, Derives (.chain .sum) tokens expr → Derives (.chain .sum) tokens other →
        expr = other :=
  ⟨fun _ => ⟨derives_of_parseComplete, Expr.ofTokens_of_derives⟩, fun _ _ => derives_unique⟩

/-- A negated power with a signed exponent, less a power that is written as a call. -/
def signedPowers : List (Token Float) :=
  [.operator '-', .word "x", .operator '^', .operator '-', .word "y", .operator '-',
    .word "pow", .openParen, .word "x", .comma, .word "y", .closeParen]

/-- The sign in front of a power negates the power, and the one in its exponent the exponent. -/
theorem parseComplete_eq_ok_iff_of_signedPowers :
    Derives (.chain .sum) signedPowers
        (.sub (.neg (.pow (.symbol "x") (.neg (.symbol "y")))) (.pow (.symbol "x") (.symbol "y"))) ∧
      (ofTokens signedPowers).parseComplete.1 = .ok
        (.sub (.neg (.pow (.symbol "x") (.neg (.symbol "y")))) (.pow (.symbol "x") (.symbol "y"))) ∧
      ¬Derives (.chain .sum) signedPowers
        (.sub (.pow (.neg (.symbol "x")) (.neg (.symbol "y"))) (.pow (.symbol "x") (.symbol "y"))) := by
  have symbol : ∀ name, Derives .signed [(.word name : Token Float)] (.symbol name) :=
    fun name => .unsigned (.base (.symbol name))
  have power : Derives (.chain .sum) [(.operator '-' : Token Float), .word "x", .operator '^',
      .operator '-', .word "y"] (.neg (.pow (.symbol "x") (.neg (.symbol "y")))) :=
    .operand (.operand (.neg (.unsigned (.raised (.symbol "x") (.neg (symbol "y") nofun))) nofun))
  have call : Derives (.chain .product) [(.word "pow" : Token Float), .openParen, .word "x", .comma,
      .word "y", .closeParen] (.pow (.symbol "x") (.symbol "y")) :=
    .operand (.unsigned (.base (.pow (.operand (.operand (symbol "x")))
      (.operand (.operand (symbol "y"))))))
  have derivation : Derives (.chain .sum) signedPowers _ := .sub power call
  obtain ⟨complete, unique⟩ := parseComplete_eq_ok_iff signedPowers
  refine ⟨derivation, (complete _).2 derivation, fun other => ?_⟩
  have same := unique _ _ derivation other
  contradiction

end KalmanHeader.Parser
