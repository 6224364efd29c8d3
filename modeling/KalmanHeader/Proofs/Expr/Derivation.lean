import KalmanHeader.Expr.Parser

/-!
# Derivations of the grammar

The grammar of expressions as a relation between tokens and trees, with one rule
for each way to build a tree, and the proof that the reading functions find every
tree that the rules derive. The rules spell out the operators, the sign of a literal
and the names of functions by themselves, whatever tables the reading functions have.
-/

namespace KalmanHeader.Grammar

variable {ν α β : Type}

/-- The rules of the grammar, from the loosest to the tightest. -/
inductive Rank where
  | chain (level : Level)
  | signed
  | power
  | primary
  deriving DecidableEq, Repr

/-- What the operators of a level join. -/
def Level.operandRank : Level → Rank
  | .sum => .chain .product
  | .product => .signed

/-- The names of the elementary functions. Two functions have two names. -/
def functionNames : List (String × Elementary) := [
  ("sin", .sin), ("cos", .cos), ("tan", .tan), ("asin", .asin), ("acos", .acos), ("atan", .atan),
  ("sinh", .sinh), ("cosh", .cosh), ("tanh", .tanh), ("exp", .exp), ("ln", .ln), ("log", .ln),
  ("sqrt", .sqrt), ("abs", .abs), ("fabs", .abs)]

/-- The trees that tokens derive. A minus sign in front of a literal belongs to the
literal, operators of one level are grouped to the left, powers and angles have two
arguments, and elementary functions have one. -/
inductive Derives [Scalar ν] : Rank → List (Token ν) → Expr ν → Prop
  | operand {level : Level} {tokens : List (Token ν)} {expr : Expr ν} :
    Derives level.operandRank tokens expr → Derives (.chain level) tokens expr
  | add {tokens tokens' : List (Token ν)} {left right : Expr ν} :
    Derives (.chain .sum) tokens left → Derives (.chain .product) tokens' right →
      Derives (.chain .sum) (tokens ++ .operator '+' :: tokens') (.add left right)
  | sub {tokens tokens' : List (Token ν)} {left right : Expr ν} :
    Derives (.chain .sum) tokens left → Derives (.chain .product) tokens' right →
      Derives (.chain .sum) (tokens ++ .operator '-' :: tokens') (.sub left right)
  | mul {tokens tokens' : List (Token ν)} {left right : Expr ν} :
    Derives (.chain .product) tokens left → Derives .signed tokens' right →
      Derives (.chain .product) (tokens ++ .operator '*' :: tokens') (.mul left right)
  | div {tokens tokens' : List (Token ν)} {left right : Expr ν} :
    Derives (.chain .product) tokens left → Derives .signed tokens' right →
      Derives (.chain .product) (tokens ++ .operator '/' :: tokens') (.div left right)
  | minusLiteral {tokens : List (Token ν)} {value : ν} :
    Derives .signed tokens (.literal value) →
      Derives .signed (.operator '-' :: tokens) (.literal (Scalar.negate value))
  | neg {tokens : List (Token ν)} {operand : Expr ν} :
    Derives .signed tokens operand → (∀ value, operand ≠ .literal value) →
      Derives .signed (.operator '-' :: tokens) (.neg operand)
  | plus {tokens : List (Token ν)} {expr : Expr ν} :
    Derives .signed tokens expr → Derives .signed (.operator '+' :: tokens) expr
  | unsigned {tokens : List (Token ν)} {expr : Expr ν} :
    Derives .power tokens expr → Derives .signed tokens expr
  | base {tokens : List (Token ν)} {expr : Expr ν} :
    Derives .primary tokens expr → Derives .power tokens expr
  | raised {tokens tokens' : List (Token ν)} {base exponent : Expr ν} :
    Derives .primary tokens base → Derives .signed tokens' exponent →
      Derives .power (tokens ++ .operator '^' :: tokens') (.pow base exponent)
  | number (value : ν) : Derives .primary [.number value] (.literal value)
  | symbol (name : String) : Derives .primary [.word name] (.symbol name)
  | pow {tokens tokens' : List (Token ν)} {base exponent : Expr ν} :
    Derives (.chain .sum) tokens base → Derives (.chain .sum) tokens' exponent →
      Derives .primary
        (.word "pow" :: .openParen :: (tokens ++ .comma :: (tokens' ++ [.closeParen])))
        (.pow base exponent)
  | atan2 {tokens tokens' : List (Token ν)} {y x : Expr ν} :
    Derives (.chain .sum) tokens y → Derives (.chain .sum) tokens' x →
      Derives .primary
        (.word "atan2" :: .openParen :: (tokens ++ .comma :: (tokens' ++ [.closeParen])))
        (.atan2 y x)
  | call {name : String} {function : Elementary} {tokens : List (Token ν)} {argument : Expr ν} :
    (name, function) ∈ functionNames → Derives (.chain .sum) tokens argument →
      Derives .primary (.word name :: .openParen :: (tokens ++ [.closeParen]))
        (.call function argument)
  | enclosed {tokens : List (Token ν)} {expr : Expr ν} :
    Derives (.chain .sum) tokens expr →
      Derives .primary (.openParen :: (tokens ++ [.closeParen])) expr

section Tables

variable {name : String} {function : Elementary} {arguments : List (Expr ν)} {expr : Expr ν}

/-- The names that are understood are those of the elementary functions. -/
theorem ofName?_eq_some_iff :
    Elementary.ofName? name = some function ↔ (name, function) ∈ functionNames := by
  constructor
  · intro known
    unfold Elementary.ofName? at known
    split at known
    · rename_i same
      obtain rfl := Option.some.inj known
      exact same ▸ (by decide)
    · split at known
      · rename_i same
        obtain rfl := Option.some.inj known
        exact same ▸ (by decide)
      · have same : function.cName = name := by simpa using List.find?_some known
        rw [← same]
        cases function <;> decide
  · have understood : ∀ entry ∈ functionNames, Elementary.ofName? entry.1 = some entry.2 := by
      decide
    exact understood (name, function)

/-- What a call of a name with arguments stands for. Powers and angles have two
arguments, elementary functions one, and there is no other call. -/
inductive Builds : String → List (Expr ν) → Expr ν → Prop
  | pow (base exponent : Expr ν) : Builds "pow" [base, exponent] (.pow base exponent)
  | atan2 (y x : Expr ν) : Builds "atan2" [y, x] (.atan2 y x)
  | call {name : String} {function : Elementary} (argument : Expr ν)
    (known : (name, function) ∈ functionNames) : Builds name [argument] (.call function argument)

/-- A call that is an expression builds it. -/
theorem builds_of_callOf (called : callOf name arguments = .ok expr) :
    Builds name arguments expr := by
  unfold callOf binaryCall? at called
  split at called
  · rename_i operation operates
    split at called
    · rename_i left right
      obtain rfl := Except.ok.inj called
      split at operates
      · rename_i power
        obtain rfl := Option.some.inj operates
        exact power ▸ .pow left right
      · split at operates
        · rename_i angle
          obtain rfl := Option.some.inj operates
          exact angle ▸ .atan2 left right
        · contradiction
    · contradiction
  · split at called
    · contradiction
    · rename_i function known
      split at called
      · rename_i argument
        obtain rfl := Except.ok.inj called
        exact .call argument (ofName?_eq_some_iff.1 known)
      · contradiction

/-- A call of an elementary function with one argument is an expression. -/
theorem callOf_function (known : (name, function) ∈ functionNames) (argument : Expr ν) :
    callOf name [argument] = .ok (.call function argument) := by
  -- No function has the name of an operation.
  have plain : ∀ entry ∈ functionNames, binaryCall? entry.1 = none := by decide
  unfold callOf
  simp only [plain (name, function) known, ofName?_eq_some_iff.2 known]

end Tables

section Rules

variable [Scalar ν] {tokens tokens' : List (Token ν)} {left right expr : Expr ν} {name : String}

/-- An operator of a level makes a chain longer. -/
theorem Derives.link {level : Level} {character : Char} {operation : Operation}
    (chain : Derives (.chain level) tokens left)
    (known : level.operation? character = some operation)
    (operand : Derives level.operandRank tokens' right) :
    Derives (.chain level) (tokens ++ .operator character :: tokens')
      (.binary operation left right) := by
  unfold Level.operation? at known
  split at known
  · cases known
    exact .add chain operand
  · cases known
    exact .sub chain operand
  · cases known
    exact .mul chain operand
  · cases known
    exact .div chain operand
  · contradiction

/-- A minus sign turns an operand into its opposite. -/
theorem Derives.minus (operand : Derives .signed tokens expr) :
    Derives .signed (.operator '-' :: tokens) (opposite expr) := by
  cases expr with
  | literal value => exact .minusLiteral operand
  | symbol | neg | binary | call => exact .neg operand nofun

/-- A call of an operation with two arguments. -/
theorem Derives.operation (first : Derives (.chain .sum) tokens left)
    (second : Derives (.chain .sum) tokens' right) (called : callOf name [left, right] = .ok expr) :
    Derives .primary
      (.word name :: .openParen :: (tokens ++ .comma :: (tokens' ++ [.closeParen]))) expr := by
  cases builds_of_callOf called with
  | pow => exact .pow first second
  | atan2 => exact .atan2 first second

/-- A call of a function with one argument. -/
theorem Derives.function (argument : Derives (.chain .sum) tokens left)
    (called : callOf name [left] = .ok expr) :
    Derives .primary (.word name :: .openParen :: (tokens ++ [.closeParen])) expr := by
  cases builds_of_callOf called with
  | call _ known => exact .call known argument

end Rules

namespace Reading

variable {least : Nat} {input rest rest' : List (Token ν)} {value : α} {value' : β}

/-- Whether the reading is a certain value, with certain tokens left. -/
def Gives (reading : Reading ν α least input) (value : α) (rest : List (Token ν)) : Prop :=
  ∃ suffix shorter, reading = .done value rest suffix shorter

/-- The value that needs no token. -/
theorem gives_nothing : (nothing value : Reading ν α 0 input).Gives value input :=
  ⟨_, _, rfl⟩

/-- A reading and the reading that follows it. -/
theorem Gives.andThen {further : Nat} {reading : Reading ν α least input}
    {next : α → (rest : List (Token ν)) → rest.length + least ≤ input.length →
      Reading ν β further rest}
    (first : reading.Gives value rest)
    (second : ∀ shorter, (next value rest shorter).Gives value' rest') :
    (reading.andThen next).Gives value' rest' := by
  obtain ⟨suffix, shorter, rfl⟩ := first
  obtain ⟨suffix', shorter', followed⟩ := second shorter
  refine ⟨suffix'.trans suffix, by omega, ?_⟩
  simp only [Reading.andThen, followed]

/-- Computing with the value. -/
theorem Gives.map {reading : Reading ν α least input} (f : α → β)
    (first : reading.Gives value rest) : (reading.map f).Gives (f value) rest := by
  obtain ⟨suffix, shorter, rfl⟩ := first
  exact ⟨suffix, shorter, rfl⟩

/-- A token in front that has been used up. -/
theorem Gives.after {reading : Reading ν α least input} (token : Token ν)
    (first : reading.Gives value rest) : (reading.after token).Gives value rest := by
  obtain ⟨suffix, shorter, rfl⟩ := first
  exact ⟨_, _, rfl⟩

/-- No claim on how much is used up. -/
theorem Gives.loosen {reading : Reading ν α least input}
    (first : reading.Gives value rest) : reading.loosen.Gives value rest := by
  obtain ⟨suffix, shorter, rfl⟩ := first
  exact ⟨_, _, rfl⟩

end Reading

/-- Whether a token after the tokens of a rule leaves the rule complete. -/
def Rank.Ends : Rank → Token ν → Prop
  | .primary, token => token ≠ .openParen
  | .chain .sum, token =>
    token ≠ .openParen ∧ token ≠ .operator '^' ∧ token ≠ .operator '*' ∧ token ≠ .operator '/'
  | _, token => token ≠ .openParen ∧ token ≠ .operator '^'

/-- The operators of a level do not belong to what they follow. -/
theorem ends_of_operation? {level : Level} {character : Char} {operation : Operation}
    (known : level.operation? character = some operation) :
    (Rank.chain level).Ends (.operator character : Token ν) := by
  unfold Level.operation? at known
  split at known
  all_goals first | contradiction | simp [Rank.Ends]

variable [Scalar ν] {tokens rest final : List (Token ν)} {expr value : Expr ν} {level : Level}

/-- Whether the reading function of a rule reads tokens as a tree, whatever complete
tokens follow. For a chain, which also reads what its operators add, the reading
ends where the reading of the links after the tree ends. -/
def Rank.Reads : Rank → List (Token ν) → Expr ν → Prop
  | .chain level, tokens, expr => ∀ rest value final, (∀ token ∈ rest.head?, (Rank.chain level).Ends token) →
    (readLinks level expr rest).Gives value final →
      (readChain level (tokens ++ rest)).Gives value final
  | .signed, tokens, expr => ∀ rest, (∀ token ∈ rest.head?, Rank.signed.Ends token) →
    (readSigned (tokens ++ rest)).Gives expr rest
  | .power, tokens, expr => ∀ rest, (∀ token ∈ rest.head?, Rank.power.Ends token) →
    (readPower (tokens ++ rest)).Gives expr rest
  | .primary, tokens, expr => ∀ rest, (∀ token ∈ rest.head?, Rank.primary.Ends token) →
    (readPrimary (tokens ++ rest)).Gives expr rest

/-- Where no operator of the level follows, the links end. -/
theorem readLinks_stop
    (stop : ∀ token ∈ rest.head?, ∀ character, token = .operator character →
      level.operation? character = none) : (readLinks level expr rest).Gives expr rest := by
  unfold readLinks
  split
  · rename_i character rest'
    have none := stop (.operator character) rfl character rfl
    split
    · rename_i operation some
      rw [none] at some
      contradiction
    · exact Reading.gives_nothing
  · exact Reading.gives_nothing

/-- One link. -/
theorem readLinks_link {character : Char} {operation : Operation} {right : Expr ν}
    {rest' : List (Token ν)} (known : level.operation? character = some operation)
    (operand : (readOperand level rest).Gives right rest')
    (more : (readLinks level (.binary operation expr right) rest').Gives value final) :
    (readLinks level expr (.operator character :: rest)).Gives value final := by
  unfold readLinks
  split
  · rename_i operation' some
    obtain rfl : operation = operation' := Option.some.inj (known.symm.trans some)
    exact (operand.andThen fun _ => more).after _ |>.loosen
  · rename_i none
    rw [known] at none
    contradiction

/-- A power does not start with an operator. -/
theorem not_gives_readPower (character : Char) :
    ¬(readPower (.operator character :: tokens)).Gives value rest := by
  rintro ⟨suffix, shorter, done⟩
  rw [readPower, readPrimary] at done
  · contradiction
  all_goals simp

/-- A power without sign in front is a signed operand. -/
theorem readSigned_power {input : List (Token ν)} (power : (readPower input).Gives value rest) :
    (readSigned input).Gives value rest := by
  unfold readSigned
  split
  · exact absurd power (not_gives_readPower '-')
  · exact absurd power (not_gives_readPower '+')
  · exact power

/-- The opposite of what is no literal is its negation. -/
theorem opposite_of_ne_literal (noLiteral : ∀ value, expr ≠ .literal value) :
    opposite expr = .neg expr := by
  cases expr with
  | literal value => exact absurd rfl (noLiteral value)
  | symbol | neg | binary | call => rfl

/-- A minus sign is read with its operand. -/
theorem reads_minus (operand : Rank.signed.Reads tokens expr) :
    Rank.signed.Reads (.operator '-' :: tokens) (opposite expr) := by
  intro rest stop
  rw [List.cons_append, readSigned]
  exact ((operand rest stop).map opposite).after _

/-- A primary without power after it is a power. -/
theorem readPower_base {input : List (Token ν)} (base : (readPrimary input).Gives value rest)
    (stop : ∀ token ∈ rest.head?, token ≠ .operator '^') : (readPower input).Gives value rest := by
  rw [readPower]
  refine base.andThen fun _ => ?_
  split
  · rename_i character rest'
    split
    · rename_i caret
      exact absurd (congrArg Token.operator caret) (stop _ rfl)
    · exact Reading.gives_nothing
  · exact Reading.gives_nothing

/-- A primary raised to a signed operand. -/
theorem readPower_raised {input : List (Token ν)} {exponent : Expr ν}
    (base : (readPrimary input).Gives value (.operator '^' :: rest))
    (raised : (readSigned rest).Gives exponent final) :
    (readPower input).Gives (.pow value exponent) final := by
  rw [readPower]
  refine base.andThen fun _ => ?_
  simp only [↓reduceIte]
  exact ((raised.map (Expr.pow value)).after _).loosen

/-- Only `*` and `/` are operators of a product. -/
theorem operation?_product_eq_none {character : Char} (noTimes : character ≠ '*')
    (noOver : character ≠ '/') : Level.product.operation? character = none := by
  simp [Level.operation?, noTimes, noOver]

/-- An operand of a level where no operator of the level below follows. -/
theorem readOperand_of_reads (reads : level.operandRank.Reads tokens expr)
    (stop : ∀ token ∈ rest.head?, (Rank.chain level).Ends token) :
    (readOperand level (tokens ++ rest)).Gives expr rest := by
  unfold readOperand
  cases level with
  | sum =>
    refine reads rest expr rest (fun token first => ?_) (readLinks_stop ?_)
    · exact ⟨(stop token first).1, (stop token first).2.1⟩
    · rintro token first character rfl
      obtain ⟨_, _, noTimes, noOver⟩ := stop _ first
      exact operation?_product_eq_none (fun times => noTimes (times ▸ rfl))
        fun slash => noOver (slash ▸ rfl)
  | product => exact reads rest stop

/-- A single operand is a chain. -/
theorem reads_operand (reads : level.operandRank.Reads tokens expr) :
    (Rank.chain level).Reads tokens expr := by
  intro rest value final stop more
  rw [readChain]
  exact (readOperand_of_reads reads stop).andThen fun _ => more

/-- A chain with one more link. -/
theorem reads_link {tokens' : List (Token ν)} {left right : Expr ν} {character : Char}
    {operation : Operation} (chain : (Rank.chain level).Reads tokens left)
    (known : level.operation? character = some operation)
    (operand : level.operandRank.Reads tokens' right) :
    (Rank.chain level).Reads (tokens ++ .operator character :: tokens')
      (.binary operation left right) := by
  intro rest value final stop more
  rw [List.append_assoc, List.cons_append]
  refine chain _ value final ?_ (readLinks_link known (readOperand_of_reads operand stop) more)
  rintro token ⟨⟩
  exact ends_of_operation? known

/-- A chain of sums up to a token that none of the rules goes on with. -/
theorem readChain_sum_of_reads (reads : (Rank.chain .sum).Reads tokens expr)
    (stop : ∀ token ∈ rest.head?, token ≠ .openParen ∧ ∀ character, token ≠ .operator character) :
    (readChain .sum (tokens ++ rest)).Gives expr rest := by
  refine reads rest expr rest (fun token first => ?_) (readLinks_stop ?_)
  · obtain ⟨noParen, noOperator⟩ := stop token first
    exact ⟨noParen, noOperator _, noOperator _, noOperator _⟩
  · rintro token first character rfl
    exact absurd rfl ((stop _ first).2 character)

/-- The arguments of a call of one argument. -/
theorem readArgumentList_single (reads : (Rank.chain .sum).Reads tokens expr) :
    (readArgumentList (tokens ++ .closeParen :: rest)).Gives [expr] rest := by
  rw [readArgumentList]
  refine (readChain_sum_of_reads reads ?_).andThen fun _ => ?_
  · rintro token ⟨⟩
    constructor <;> intros <;> intro same <;> contradiction
  · exact (Reading.gives_nothing.after _).loosen

/-- The arguments of a call with one argument more. -/
theorem readArgumentList_cons {arguments : List (Expr ν)}
    (reads : (Rank.chain .sum).Reads tokens expr)
    (others : (readArgumentList rest).Gives arguments final) :
    (readArgumentList (tokens ++ .comma :: rest)).Gives (expr :: arguments) final := by
  rw [readArgumentList]
  refine (readChain_sum_of_reads reads ?_).andThen fun _ => ?_
  · rintro token ⟨⟩
    constructor <;> intros <;> intro same <;> contradiction
  · exact ((others.map (expr :: ·)).after _).loosen

/-- An argument does not start with a closing parenthesis. -/
theorem not_gives_readArgumentList {arguments : List (Expr ν)} :
    ¬(readArgumentList (.closeParen :: tokens)).Gives arguments rest := by
  rintro ⟨suffix, shorter, done⟩
  rw [readArgumentList, readChain, readOperand, readChain, readOperand, readSigned, readPower,
    readPrimary] at done
  · contradiction
  all_goals simp

/-- Arguments are read one after the other unless there are none. -/
theorem readArguments_of_list {input : List (Token ν)} {arguments : List (Expr ν)}
    (list : (readArgumentList input).Gives arguments final) :
    (readArguments input).Gives arguments final := by
  unfold readArguments
  split
  · exact absurd list not_gives_readArgumentList
  · exact list

/-- A call of a function that exists, with as many arguments as it takes. -/
theorem readPrimary_call {name : String} {arguments : List (Expr ν)}
    (list : (readArguments rest).Gives arguments final)
    (known : callOf name arguments = .ok expr) :
    (readPrimary (.word name :: .openParen :: rest)).Gives expr final := by
  rw [readPrimary]
  refine ((list.andThen fun _ => ?_).after _).after _
  rw [known]
  exact Reading.gives_nothing

/-- A call of an operation with two arguments is read. -/
theorem reads_operation {tokens' : List (Token ν)} {left right : Expr ν} {name : String}
    (first : (Rank.chain .sum).Reads tokens left) (second : (Rank.chain .sum).Reads tokens' right)
    (known : callOf name [left, right] = .ok expr) :
    Rank.primary.Reads
      (.word name :: .openParen :: (tokens ++ .comma :: (tokens' ++ [.closeParen]))) expr := by
  intro rest stop
  rw [List.cons_append, List.cons_append, List.append_assoc, List.cons_append, List.append_assoc]
  exact readPrimary_call
    (readArguments_of_list (readArgumentList_cons first (readArgumentList_single second))) known

/-- An expression in parentheses. -/
theorem readPrimary_enclosed (reads : (Rank.chain .sum).Reads tokens expr) :
    (readPrimary (.openParen :: (tokens ++ .closeParen :: rest))).Gives expr rest := by
  rw [readPrimary]
  refine ((readChain_sum_of_reads reads ?_).andThen fun _ => ?_).after _
  · rintro token ⟨⟩
    constructor <;> intros <;> intro same <;> contradiction
  · exact (Reading.gives_nothing.after _).loosen

/-- The reading functions read every derivation, whatever follows it. -/
theorem Derives.reads {rank : Rank} (derivation : Derives rank tokens expr) :
    rank.Reads tokens expr := by
  induction derivation with
  | operand _ ih => exact reads_operand ih
  | add _ _ ihLeft ihRight => exact reads_link ihLeft rfl ihRight
  | sub _ _ ihLeft ihRight => exact reads_link ihLeft rfl ihRight
  | mul _ _ ihLeft ihRight => exact reads_link ihLeft rfl ihRight
  | div _ _ ihLeft ihRight => exact reads_link ihLeft rfl ihRight
  | minusLiteral _ ih => exact reads_minus ih
  | neg _ noLiteral ih => exact opposite_of_ne_literal noLiteral ▸ reads_minus ih
  | plus _ ih =>
    intro rest stop
    rw [List.cons_append, readSigned]
    exact (ih rest stop).after _
  | unsigned _ ih =>
    intro rest stop
    exact readSigned_power (ih rest stop)
  | base _ ih =>
    intro rest stop
    exact readPower_base (ih rest fun token first => (stop token first).1)
      fun token first => (stop token first).2
  | raised _ _ ihBase ihExponent =>
    intro rest stop
    rw [List.append_assoc, List.cons_append]
    refine readPower_raised (ihBase _ ?_) (ihExponent rest stop)
    rintro token ⟨⟩
    intro same
    contradiction
  | number value =>
    intro rest stop
    rw [List.singleton_append, readPrimary]
    exact Reading.gives_nothing.after _
  | symbol name =>
    intro rest stop
    rw [List.singleton_append, readPrimary]
    · exact Reading.gives_nothing.after _
    · rintro rest' rfl
      exact absurd rfl (stop .openParen rfl)
  | pow _ _ ihBase ihExponent => exact reads_operation ihBase ihExponent rfl
  | atan2 _ _ ihLeft ihRight => exact reads_operation ihLeft ihRight rfl
  | call known _ ih =>
    intro rest stop
    rw [List.cons_append, List.cons_append, List.append_assoc]
    exact readPrimary_call (readArguments_of_list (readArgumentList_single ih))
      (callOf_function known _)
  | enclosed _ ih =>
    intro rest stop
    rw [List.cons_append, List.append_assoc]
    exact readPrimary_enclosed ih

end KalmanHeader.Grammar

namespace KalmanHeader.Expr

variable {ν : Type} [Scalar ν] {tokens : List (Token ν)} {expr : Expr ν}

/-- Tokens are the expression that they derive. -/
theorem ofTokens_of_derives (derivation : Grammar.Derives (.chain .sum) tokens expr) :
    ofTokens tokens = .ok expr := by
  have stop : ∀ token ∈ ([] : List (Token ν)).head?,
      token ≠ .openParen ∧ ∀ character, token ≠ .operator character := by
    rintro token ⟨⟩
  have whole := Grammar.readChain_sum_of_reads derivation.reads stop
  rw [List.append_nil] at whole
  obtain ⟨suffix, shorter, done⟩ := whole
  unfold ofTokens Parser.parseComplete Parser.advance Parser.ofTokens
  simp only [done]
  rfl

end KalmanHeader.Expr
