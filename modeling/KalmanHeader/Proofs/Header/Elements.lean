import KalmanHeader.Proofs.C.Reparse
import KalmanHeader.Proofs.Header.Pieces

/-!
# Reading an element back

In the function a symbol of the state is written as the entry of the state at its
place. The reader counts the subscripts of a text and puts the symbols back in, and
what it then parses is the expression that was written.
-/

namespace KalmanHeader

namespace C

variable {naming : Naming} {array name : String} {state : List String}

/-- The text of an entry of an array. -/
def entryText (array : String) (place : Nat) : String :=
  array ++ "[" ++ toString place ++ "]"

/-- The characters of an entry. -/
theorem toList_entryText (array : String) (place : Nat) :
    (entryText array place).toList = array.toList ++ '[' :: (Nat.toDigits 10 place ++ [']']) := by
  simp [entryText]

/-- Renaming other symbols does not matter. -/
theorem foldl_rename_of_notMem {start : Nat} (absent : name ∉ state) :
    ((state.zipIdx start).foldl
      (fun naming entry => naming.rename entry.1 (entryText array entry.2)) naming) name =
      naming name := by
  induction state generalizing start naming with
  | nil => rfl
  | cons head tail ih =>
    rw [List.mem_cons, not_or] at absent
    obtain ⟨different, absent⟩ := absent
    rw [List.zipIdx_cons, List.foldl_cons, ih absent, Naming.rename, if_neg different]

/-- A symbol that is renamed once is written that way. -/
theorem foldl_rename_of_getElem? {start place : Nat} (distinct : state.Nodup)
    (found : state[place]? = some name) :
    ((state.zipIdx start).foldl
      (fun naming entry => naming.rename entry.1 (entryText array entry.2)) naming) name =
      entryText array (start + place) := by
  induction state generalizing start place naming with
  | nil => contradiction
  | cons head tail ih =>
    obtain ⟨absent, distinct⟩ := List.nodup_cons.1 distinct
    rw [List.zipIdx_cons, List.foldl_cons]
    cases place with
    | zero =>
      obtain rfl : head = name := Option.some.inj found
      rw [foldl_rename_of_notMem absent, Naming.rename, if_pos rfl, Nat.add_zero]
    | succ place =>
      rw [ih distinct found, Nat.add_assoc, Nat.add_comm 1]

/-- A symbol that is not of the state is written as its name. -/
theorem stateNaming_of_notMem (absent : name ∉ state) : stateNaming array state name = name :=
  foldl_rename_of_notMem absent

/-- A symbol of the state is written as the entry at its place. -/
theorem stateNaming_of_getElem? {place : Nat} (distinct : state.Nodup)
    (found : state[place]? = some name) :
    stateNaming array state name = entryText array place := by
  have renamed := @foldl_rename_of_getElem? plainNaming array name state 0 place distinct found
  rw [Nat.zero_add] at renamed
  exact renamed

end C

namespace Reader

open C Number Token

variable {state : List String} {text text' : List Char} {places places' : List Nat}
  {raw raw' tokens tokens' : List (Token Float)}

/-- Whether a text has certain subscripts, whatever follows it. -/
def Subscripted (text : List Char) (places : List Nat) : Prop :=
  ∀ rest, subscripts (text ++ rest) = places ++ subscripts rest

/-- Whether tokens become others once the symbols of the state are put back in for
certain subscripts, whatever follows them. -/
def Resolves (state : List String) (places : List Nat) (raw tokens : List (Token Float)) : Prop :=
  ∀ places' rest,
    resolve state (places ++ places') (raw ++ rest) =
      (resolve state places' rest).map (tokens ++ ·)

/-- Whether the subscripts of a text make one list of tokens into another. -/
def Refers (state : List String) (text : List Char) (raw tokens : List (Token Float)) : Prop :=
  ∃ places, Subscripted text places ∧ Resolves state places raw tokens

section Subscripts

/-- One text after the other. -/
theorem Subscripted.append (first : Subscripted text places) (second : Subscripted text' places') :
    Subscripted (text ++ text') (places ++ places') := by
  intro rest
  rw [List.append_assoc, first, second, List.append_assoc]

/-- A text without brackets has no subscripts. -/
theorem subscripted_plain (plain : ∀ character ∈ text, character ≠ '[') : Subscripted text [] := by
  intro rest
  induction text with
  | nil => rfl
  | cons first others ih =>
    obtain ⟨noBracket, plain⟩ := List.forall_mem_cons.1 plain
    rw [List.cons_append, subscripts, if_neg noBracket]
    exact ih plain

/-- An entry of an array has its place as subscript. -/
theorem subscripted_entry (place : Nat) :
    Subscripted ('[' :: (Nat.toDigits 10 place ++ [']'])) [place] := by
  intro rest
  have digits : ∀ character ∈ Nat.toDigits 10 place, character.isDigit := isDigit_of_mem_toDigits
  have stop : ∀ character ∈ (']' :: rest).head?, ¬character.isDigit := by
    rintro character ⟨⟩
    decide
  have plain : Subscripted (Nat.toDigits 10 place ++ [']']) [] := by
    refine subscripted_plain (List.forall_mem_append.2 ⟨fun character member => ?_,
      List.forall_mem_singleton.2 (by decide)⟩)
    rintro rfl
    exact absurd (digits _ member) (by decide)
  rw [List.cons_append, subscripts, if_pos rfl, plain rest, List.append_assoc,
    List.singleton_append, Text.takeWhile_run digits stop, Nat.ofDigitChars_ten_toDigits]
  rfl

end Subscripts

section Resolution

/-- No tokens stay none. -/
theorem resolves_nil : Resolves state [] [] [] := by
  intro places' rest
  cases found : resolve state places' rest <;> simp [found]

/-- One list of tokens after the other. -/
theorem Resolves.append (first : Resolves state places raw tokens)
    (second : Resolves state places' raw' tokens') :
    Resolves state (places ++ places') (raw ++ raw') (tokens ++ tokens') := by
  intro places'' rest
  rw [List.append_assoc, List.append_assoc, first, second, Option.map_map]
  congr 1
  funext found
  exact (List.append_assoc ..).symm

/-- A token other than the name of the state stays as it is. -/
theorem resolves_single {token : Token Float} (other : token ≠ .word "x") :
    Resolves state [] [token] [token] := by
  intro places rest
  rw [List.nil_append, List.singleton_append]
  rw [resolve]
  · rfl
  · rintro place places' value tokens rfl named _
    exact other named

/-- An entry of the state becomes its symbol. -/
theorem resolves_entry {place : Nat} {name : String} (value : Float)
    (found : state[place]? = some name) :
    Resolves state [place] [.word "x", .operator '[', .number value, .operator ']']
      [.word name] := by
  intro places rest
  simp only [List.cons_append, List.nil_append, resolve, found]

/-- Tokens without the name of the state stay as they are. -/
theorem resolves_plain (plain : ∀ token ∈ tokens, token ≠ .word "x") :
    Resolves state [] tokens tokens := by
  induction tokens with
  | nil => exact resolves_nil
  | cons first others ih =>
    obtain ⟨other, plain⟩ := List.forall_mem_cons.1 plain
    exact (resolves_single other).append (ih plain)

end Resolution

section Expressions

variable {text'' : List Char} {raw'' tokens'' : List (Token Float)}

/-- One text after the other. -/
theorem Refers.append (first : Refers state text raw tokens)
    (second : Refers state text' raw' tokens') :
    Refers state (text ++ text') (raw ++ raw') (tokens ++ tokens') := by
  obtain ⟨places, subscripted, resolves⟩ := first
  obtain ⟨places', subscripted', resolves'⟩ := second
  exact ⟨places ++ places', subscripted.append subscripted', resolves.append resolves'⟩

/-- A text without brackets and tokens without the name of the state. -/
theorem refers_plain (text : List Char) (tokens : List (Token Float))
    (noBracket : ∀ character ∈ text, character ≠ '[') (plain : ∀ token ∈ tokens, token ≠ .word "x") :
    Refers state text tokens tokens :=
  ⟨[], subscripted_plain noBracket, resolves_plain plain⟩

/-- A mark and its token. -/
theorem refers_mark (character : Char) (token : Token Float) (noBracket : character ≠ '[')
    (other : token ≠ .word "x") : Refers state [character] [token] [token] :=
  refers_plain [character] [token] (List.forall_mem_singleton.2 noBracket)
    (List.forall_mem_singleton.2 other)

/-- A blank is no token. -/
theorem refers_blank : Refers state [' '] [] [] :=
  refers_plain [' '] [] (List.forall_mem_singleton.2 (by decide)) (List.forall_mem_nil _)

/-- A word other than the name of the state. -/
theorem refers_word {name : String} (word : isWord name.toList) (other : name ≠ "x") :
    Refers state name.toList [.word name] [.word name] := by
  refine refers_plain _ _ (fun character member => ?_) (List.forall_mem_singleton.2 ?_)
  · rintro rfl
    exact absurd (isWordPart_of_isWord word _ member) (by decide)
  · exact fun same => other (Token.word.inj same)

/-- An entry of the state. -/
theorem refers_entry {place : Nat} {name : String} (value : Float)
    (found : state[place]? = some name) :
    Refers state (entryText "x" place).toList
      [.word "x", .operator '[', .number value, .operator ']'] [.word name] := by
  have plain : Subscripted "x".toList [] :=
    subscripted_plain (List.forall_mem_singleton.2 (by decide))
  rw [toList_entryText]
  exact ⟨[place], plain.append (subscripted_entry place), resolves_entry value found⟩

/-- Parentheses around a text. -/
theorem Refers.enclosed (inner : Refers state text raw tokens) :
    Refers state ('(' :: (text ++ [')'])) (.openParen :: (raw ++ [.closeParen]))
      (.openParen :: (tokens ++ [.closeParen])) :=
  (refers_mark '(' .openParen (by decide) nofun).append
    (inner.append (refers_mark ')' .closeParen (by decide) nofun))

/-- An operand. -/
theorem Refers.operand (inner : Refers state text raw tokens) (enclose : Bool) :
    Refers state (operandCharacters enclose text) (operandTokens enclose raw)
      (operandTokens enclose tokens) := by
  cases enclose with
  | false => exact inner
  | true => exact inner.enclosed

/-- A finite number. -/
theorem refers_number {value : Float} (finite : value.isFinite = true) :
    Refers state (C.number value).toList (literalTokens value) (literalTokens value) := by
  refine refers_plain _ _ (fun character member => ?_) ?_
  · rintro rfl
    exact absurd (isNumberCharacter_number finite _ member) (by decide)
  · unfold literalTokens
    split
    · exact List.forall_mem_cons.2 ⟨nofun, List.forall_mem_singleton.2 nofun⟩
    · exact List.forall_mem_singleton.2 nofun

/-- The operator between two operands. -/
theorem refers_operator (operation : Operation) :
    Refers state [' ', operatorCharacter operation, ' ']
      [.operator (operatorCharacter operation)] [.operator (operatorCharacter operation)] := by
  refine refers_plain _ _ ?_ (List.forall_mem_singleton.2 nofun)
  cases operation <;> simp [operatorCharacter]

/-- The text of an expression, where the texts of its symbols are known. -/
theorem refers_expression {naming : Naming} {symbolTokens : String → List (Token Float)}
    {expr : Expr Float} (finite : expr.HasFiniteLiterals)
    (named : ∀ name, expr.contains name →
      Refers state (naming name).toList (symbolTokens name) (wordTokens name)) :
    Refers state (expression naming expr).toList (expressionTokens symbolTokens expr)
      (expressionTokens wordTokens expr) := by
  induction expr with
  | literal value => exact refers_number (Expr.hasFiniteLiterals_literal.1 finite)
  | symbol name => exact named name (by simp [Expr.contains])
  | neg operand ih =>
    rw [toList_neg]
    exact (refers_mark '-' (.operator '-') (by decide) (by simp)).append
      ((ih (Expr.hasFiniteLiterals_neg.1 finite) named).operand _)
  | binary operation left right ihLeft ihRight =>
    obtain ⟨finiteLeft, finiteRight⟩ := Expr.hasFiniteLiterals_binary.1 finite
    have left := ihLeft finiteLeft fun name found => named name (by simp [Expr.contains, found])
    have right := ihRight finiteRight fun name found => named name (by simp [Expr.contains, found])
    rw [expressionTokens, expressionTokens]
    cases known : operator? operation with
    | some operator =>
      rw [toList_between known]
      exact (left.operand _).append ((refers_operator operation).append (right.operand _))
    | none =>
      have other : callName operation ≠ "x" := by
        cases operation <;> decide
      have comma := @refers_mark state ',' .comma (by decide) (by simp)
      rw [toList_operation known]
      simpa only [List.append_assoc, List.cons_append, List.nil_append] using
        (refers_word (isWord_callName known) other).append
          (left.append (comma.append (refers_blank.append right))).enclosed
  | call function argument ih =>
    have other : function.cName ≠ "x" := by
      cases function <;> decide
    rw [toList_call]
    exact (refers_word (isWord_cName function) other).append
      (ih (Expr.hasFiniteLiterals_call.1 finite) named).enclosed

end Expressions

section Reading

variable {name : String}

/-- The tokens of the entry of the state at a place. -/
def entryTokens (place : Nat) : List (Token Float) :=
  [.word "x", .operator '[', .number (Decimal.toFloat false ⟨place, 0⟩), .operator ']']

/-- The tokens of a symbol that is written as an entry of the state if it is of the
state, and as its name otherwise. -/
def stateTokens (state : List String) (name : String) : List (Token Float) :=
  if name ∈ state then entryTokens (state.idxOf name) else [.word name]

/-- Whether a symbol can be told from the name of the state. -/
def Readable (state : List String) (name : String) : Prop :=
  name ∈ state ∨ (isWord name.toList ∧ name ≠ "x")

/-- The entry of a list at the first place of a member is that member. -/
theorem getElem?_idxOf_of_mem (member : name ∈ state) : state[state.idxOf name]? = some name := by
  have within := List.idxOf_lt_length_of_mem member
  rw [List.getElem?_eq_getElem within, List.getElem_idxOf]

/-- The text of an entry of the state spells its tokens. -/
theorem spells_entry (place : Nat) : Spells (entryText "x" place).toList (entryTokens place) := by
  have digits : ∀ character ∈ Nat.toDigits 10 place, character.isDigit := isDigit_of_mem_toDigits
  have present : Nat.toDigits 10 place ≠ [] := Nat.toDigits_ne_nil
  have read : readDecimal? (Nat.toDigits 10 place) = some ⟨place, 0⟩ := by
    have whole := @readDecimal?_whole _ [] digits present (by simp)
    rw [List.append_nil, Nat.ofDigitChars_ten_toDigits] at whole
    exact whole
  have number : Spells (Nat.toDigits 10 place) [.number (Decimal.toFloat false ⟨place, 0⟩)] :=
    spells_numeral (isPlain_of_digits present digits).isNumeral read
  have closing : Spells [']'] [.operator ']'] := spells_nil.symbol (by decide) (by decide)
  have subscript : Spells ('[' :: (Nat.toDigits 10 place ++ [']']))
      (.operator '[' :: ([.number (Decimal.toFloat false ⟨place, 0⟩)] ++ [.operator ']'])) :=
    (number.append closing (boundary_cons (by decide) (by decide))).symbol (by decide) (by decide)
  have array : Spells "x".toList [.word "x"] := spells_word (by decide)
  rw [toList_entryText]
  exact array.append subscript (boundary_cons (by decide) (by decide))

/-- The text of a readable symbol spells its tokens. -/
theorem spells_symbol (distinct : state.Nodup) (readable : Readable state name) :
    Spells (stateNaming "x" state name).toList (stateTokens state name) := by
  rw [stateTokens]
  by_cases member : name ∈ state
  · rw [if_pos member, stateNaming_of_getElem? distinct (getElem?_idxOf_of_mem member)]
    exact spells_entry _
  · rw [if_neg member, stateNaming_of_notMem member]
    exact spells_word (readable.resolve_left member).1

/-- The text of a readable symbol refers to that symbol. -/
theorem refers_symbol (distinct : state.Nodup) (readable : Readable state name) :
    Refers state (stateNaming "x" state name).toList (stateTokens state name)
      (wordTokens name) := by
  rw [stateTokens]
  by_cases member : name ∈ state
  · have found := getElem?_idxOf_of_mem member
    rw [if_pos member, stateNaming_of_getElem? distinct found]
    exact refers_entry _ found
  · obtain ⟨word, other⟩ := readable.resolve_left member
    rw [if_neg member, stateNaming_of_notMem member]
    exact refers_word word other

variable {expr : Expr Float}

/-- A text that spells tokens which refer to those of an expression is read as that
expression. -/
theorem element?_of_spells (spells : Spells text raw)
    (refers : Refers state text raw (expressionTokens wordTokens expr))
    (finite : expr.HasFiniteLiterals) : element? state text = some (reread expr) := by
  obtain ⟨places, subscripted, resolves⟩ := refers
  have places : subscripts text = places := by
    have whole := subscripted []
    rwa [List.append_nil, subscripts, List.append_nil] at whole
  have tokens : resolve state (subscripts text) raw = some (expressionTokens wordTokens expr) := by
    have whole := resolves [] []
    rw [List.append_nil, List.append_nil, ← places, resolve] at whole
    simpa using whole
  have tokenized : tokenize (String.ofList text) = .ok raw :=
    tokenize_of_spells (by rwa [String.toList_ofList])
  rw [element?, tokenized]
  simp only [tokens, Option.bind_some, ofTokens_expressionTokens finite]
  rfl

/-- The text of an expression is read back as that expression, also after a blank. -/
theorem element?_expression (distinct : state.Nodup) (finite : expr.HasFiniteLiterals)
    (readable : ∀ name, expr.contains name → Readable state name) :
    element? state (expression (stateNaming "x" state) expr).toList = some (reread expr) ∧
      element? state (' ' :: (expression (stateNaming "x" state) expr).toList) =
        some (reread expr) := by
  have spells : Spells (expression (stateNaming "x" state) expr).toList
      (expressionTokens (stateTokens state) expr) :=
    spells_expression finite fun name found => spells_symbol distinct (readable name found)
  have refers : Refers state (expression (stateNaming "x" state) expr).toList
      (expressionTokens (stateTokens state) expr) (expressionTokens wordTokens expr) :=
    refers_expression finite fun name found => refers_symbol distinct (readable name found)
  exact ⟨element?_of_spells spells refers finite,
    element?_of_spells spells.blank (refers_blank.append refers) finite⟩

end Reading

end Reader

end KalmanHeader
