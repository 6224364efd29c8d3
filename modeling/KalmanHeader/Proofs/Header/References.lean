import KalmanHeader.Proofs.Header.Declarations

/-!
# The names that an element refers to

A compiler looks up the names in the text of an element. These are the symbols of its
expression as they are written, an entry of the state with its place, and besides them only
functions and values of the C library. Numbers hold letters as well, but a number starts
with a digit.
-/

namespace KalmanHeader

/-- The names of `<math.h>` that expressions are written with. -/
def C.mathNames : List String := [
  "sin", "cos", "tan", "asin", "acos", "atan", "sinh", "cosh", "tanh", "exp", "log", "sqrt",
  "fabs", "pow", "atan2", "NAN", "INFINITY"]

namespace Reader

open C Number Token

variable {text text' : List Char} {found found' : List Reference} {character : Char}
  {naming : Naming} {symbol : String → Reference} {expr left right : Expr Float}
  {state : List String} {name : String}

/-- Whether a reference is to a name of the C library. -/
def Reference.IsLibrary (reference : Reference) : Prop :=
  reference.name ∈ mathNames ∧ reference.subscript = none

/-- Whether a text starts neither with more of a name nor with brackets. -/
def EndsName (text : List Char) : Prop :=
  ∀ character ∈ text.head?, isRunPart character = false ∧ character ≠ '['

/-- Whether a text has certain references, whatever ends it. -/
def HasReferences (text : List Char) (found : List Reference) : Prop :=
  ∀ rest, EndsName rest → references (text ++ rest) = found ++ references rest

section Characters

/-- Names go on with word characters. -/
theorem isRunPart_of_isWordPart (part : Text.isWordPart character) : isRunPart character := by
  rw [Text.isWordPart] at part
  rw [isRunPart, part, Bool.true_or]

/-- Digits and points are part of numbers. -/
theorem isRunPart_of_isPlain (plain : Token.IsPlain text) :
    ∀ character ∈ text, isRunPart character := by
  intro character member
  rcases plain.digit_or_point character member with digit | rfl
  · exact isRunPart_of_isWordPart (Text.isWordPart_of_isDigit digit)
  · decide

/-- No name starts with a digit. -/
theorem isNameStart_of_isDigit (digit : character.isDigit) : isNameStart character = false := by
  refine Bool.eq_false_of_not_eq_true fun start => ?_
  have noDigit := (Bool.or_eq_false_iff.1 (Text.not_isDigit_of_isWordStart start)).1
  rw [noDigit] at digit
  contradiction

end Characters

section Composition

/-- The rest of a run is no name of its own. -/
theorem referencesFrom_run {rest : List Char} (run : ∀ character ∈ text, isRunPart character)
    (ends : EndsName rest) : referencesFrom true (text ++ rest) = references rest := by
  induction text with
  | nil =>
    cases rest with
    | nil => rfl
    | cons first others =>
      have outside := (ends first rfl).1
      rw [List.nil_append, references, referencesFrom, referencesFrom, outside]
      rfl
  | cons first others ih =>
    obtain ⟨head, tail⟩ := List.forall_mem_cons.1 run
    rw [List.cons_append, referencesFrom, if_pos head]
    exact ih tail

/-- Nothing has no references. -/
theorem hasReferences_nil : HasReferences [] [] :=
  fun _ _ => rfl

/-- A mark in front is no reference. -/
theorem HasReferences.after (inner : HasReferences text found) (character : Char)
    (mark : isRunPart character = false) : HasReferences (character :: text) found := by
  intro rest ends
  rw [List.cons_append, references, referencesFrom, if_neg (by rw [mark]; decide)]
  exact inner rest ends

/-- Two texts with a mark between them have the references of both. -/
theorem HasReferences.mark (first : HasReferences text found) (character : Char)
    (second : HasReferences text' found') (mark : isRunPart character = false)
    (noBracket : character ≠ '[') :
    HasReferences (text ++ character :: text') (found ++ found') := by
  intro rest ends
  have stop : EndsName (character :: (text' ++ rest)) := by
    rintro next ⟨⟩
    exact ⟨mark, noBracket⟩
  have others := second.after character mark rest ends
  rw [List.cons_append] at others
  rw [List.append_assoc, List.cons_append, first _ stop, others, List.append_assoc]

/-- Parentheses around a text are no references. -/
theorem HasReferences.enclosed (inner : HasReferences text found) :
    HasReferences ('(' :: (text ++ [')'])) found := by
  have closed := inner.mark ')' hasReferences_nil (by decide) (by decide)
  rw [List.append_nil] at closed
  exact closed.after '(' (by decide)

/-- An operand has the references of its text. -/
theorem HasReferences.operand (inner : HasReferences text found) (enclose : Bool) :
    HasReferences (operandCharacters enclose text) found := by
  cases enclose with
  | false => exact inner
  | true => exact inner.enclosed

end Composition

section Runs

/-- A run that starts with a digit is a number. -/
theorem hasReferences_numeral {first : Char} (digit : first.isDigit)
    (run : ∀ character ∈ text, isRunPart character) : HasReferences (first :: text) [] := by
  intro rest ends
  have part : isRunPart first := isRunPart_of_isWordPart (Text.isWordPart_of_isDigit digit)
  rw [List.cons_append, references, referencesFrom, if_pos part, isNameStart_of_isDigit digit]
  exact referencesFrom_run run ends

/-- A plain text with a run after it is a number. -/
theorem hasReferences_plain (plain : Token.IsPlain text)
    (run : ∀ character ∈ text', isRunPart character) : HasReferences (text ++ text') [] := by
  have parts := isRunPart_of_isPlain plain
  obtain ⟨first, more, rfl, digit, _⟩ := plain
  exact hasReferences_numeral digit
    (List.forall_mem_append.2 ⟨(List.forall_mem_cons.1 parts).2, run⟩)

/-- A plain text is a number. -/
theorem hasReferences_of_isPlain (plain : Token.IsPlain text) : HasReferences text [] := by
  have alone := hasReferences_plain plain (List.forall_mem_nil _)
  rwa [List.append_nil] at alone

/-- A word is a name. -/
theorem hasReferences_word (word : isWord name.toList) :
    HasReferences name.toList [⟨name, none⟩] := by
  intro rest ends
  have parts := isWordPart_of_isWord word
  cases characters : name.toList with
  | nil =>
    rw [characters] at word
    contradiction
  | cons first more =>
    rw [characters] at parts word
    have run : ∀ character ∈ first :: more, isRunPart character :=
      fun character member => isRunPart_of_isWordPart (parts character member)
    obtain ⟨head, tail⟩ := List.forall_mem_cons.1 run
    have start : isNameStart first := (Bool.and_eq_true_iff.1 word).1
    have stop : ∀ next ∈ rest.head?, ¬isRunPart next :=
      fun next first => Bool.eq_false_iff.1 (ends next first).1
    have bare : leadingSubscript? rest = none := by
      unfold leadingSubscript?
      split
      · exact absurd rfl (ends '[' rfl).2
      · rfl
    have whole : String.ofList (first :: more) = name := by
      rw [← characters, String.ofList_toList]
    rw [List.cons_append, references, referencesFrom, if_pos head, start,
      Text.takeWhile_run tail stop, Text.dropWhile_run tail stop, bare, whole,
      referencesFrom_run tail ends]
    rfl

/-- An entry of the state is a name with its place. -/
theorem hasReferences_entry (place : Nat) :
    HasReferences (entryText "x" place).toList [⟨"x", some place⟩] := by
  intro rest ends
  have digits : ∀ character ∈ Nat.toDigits 10 place, character.isDigit := isDigit_of_mem_toDigits
  have present : Nat.toDigits 10 place ≠ [] := Nat.toDigits_ne_nil
  have stop : ∀ character ∈ (']' :: rest).head?, ¬character.isDigit := by
    rintro _ ⟨⟩
    decide
  have inner : HasReferences (Nat.toDigits 10 place) [] :=
    hasReferences_of_isPlain (isPlain_of_digits present digits)
  have after : references ('[' :: (Nat.toDigits 10 place ++ ']' :: rest)) = references rest := by
    have closed := inner.mark ']' hasReferences_nil (by decide) (by decide)
    have bracket := closed.after '[' (by decide) rest ends
    simpa only [List.append_nil, List.append_assoc, List.cons_append, List.nil_append] using bracket
  have subscript : leadingSubscript? ('[' :: (Nat.toDigits 10 place ++ ']' :: rest)) =
      some place := by
    rw [leadingSubscript?, Text.takeWhile_run digits stop, Text.dropWhile_run digits stop,
      if_pos ⟨present, rfl⟩, Nat.ofDigitChars_ten_toDigits]
  have text : (entryText "x" place).toList ++ rest =
      'x' :: '[' :: (Nat.toDigits 10 place ++ ']' :: rest) := by
    rw [toList_entryText, List.append_assoc, List.cons_append, List.append_assoc]
    rfl
  have name : references ('x' :: '[' :: (Nat.toDigits 10 place ++ ']' :: rest)) =
      ⟨"x", leadingSubscript? ('[' :: (Nat.toDigits 10 place ++ ']' :: rest))⟩ ::
        references ('[' :: (Nat.toDigits 10 place ++ ']' :: rest)) := rfl
  rw [text, name, subscript, after]
  rfl

end Runs

section Expressions

/-- The digits of a number are no names. -/
theorem hasReferences_decimalText (decimal : Decimal) :
    HasReferences (numberStyle.decimalText decimal) [] := by
  unfold Style.decimalText
  split
  · exact hasReferences_of_isPlain (isPlain_positionalText (.inr rfl) decimal)
  · obtain ⟨mantissa, plain, layout⟩ := exists_isPlain_scientificText [] decimal
    have exponent : Token.IsPlain (Nat.toDigits 10 (decimal.magnitude - 1).natAbs) :=
      isPlain_of_digits Nat.toDigits_ne_nil isDigit_of_mem_toDigits
    have mark : isRunPart 'e' := by decide
    change HasReferences (scientificText [] decimal) []
    rw [layout]
    split
    -- The sign of the exponent cuts the number in two, neither of which is a name.
    · have front := hasReferences_plain plain (List.forall_mem_singleton.2 mark)
      have cut := front.mark '-' (hasReferences_of_isPlain exponent) (by decide) (by decide)
      simpa only [List.append_assoc, List.cons_append, List.nil_append] using cut
    · exact hasReferences_plain plain
        (List.forall_mem_cons.2 ⟨mark, isRunPart_of_isPlain exponent⟩)

/-- A number has no names but those of values without digits. -/
theorem exists_hasReferences_number (value : Float) :
    ∃ found, HasReferences (C.number value).toList found ∧
      ∀ reference ∈ found, reference.IsLibrary := by
  have digits := hasReferences_decimalText (shortest numberStyle.tie (magnitudeBits value))
  have nan : HasReferences "NAN".toList [⟨"NAN", none⟩] := hasReferences_word (by decide)
  have infinity : HasReferences "INFINITY".toList [⟨"INFINITY", none⟩] :=
    hasReferences_word (by decide)
  have isNan : (⟨"NAN", none⟩ : Reference).IsLibrary := ⟨by decide, rfl⟩
  have isInfinity : (⟨"INFINITY", none⟩ : Reference).IsLibrary := ⟨by decide, rfl⟩
  rw [C.number]
  split
  · have point : ∀ character ∈ ['.', '0'], isRunPart character :=
      List.forall_mem_cons.2 ⟨by decide, List.forall_mem_singleton.2 (by decide)⟩
    exact ⟨[], hasReferences_numeral (by decide) point, List.forall_mem_nil _⟩
  · rw [Style.text, String.toList_ofList, Style.characters]
    split
    · exact ⟨_, nan, List.forall_mem_singleton.2 isNan⟩
    · split
      · split
        · exact ⟨_, (infinity.after '-' (by decide)).enclosed,
            List.forall_mem_singleton.2 isInfinity⟩
        · exact ⟨_, infinity, List.forall_mem_singleton.2 isInfinity⟩
      · dsimp only
        split
        · exact ⟨[], digits.after '-' (by decide), List.forall_mem_nil _⟩
        · exact ⟨[], digits, List.forall_mem_nil _⟩

/-- A call has the name of its function in front of those of its arguments. -/
theorem HasReferences.call (inner : HasReferences text found) (word : isWord name.toList) :
    HasReferences (name.toList ++ '(' :: (text ++ [')'])) (⟨name, none⟩ :: found) := by
  have closed := inner.mark ')' hasReferences_nil (by decide) (by decide)
  rw [List.append_nil] at closed
  exact (hasReferences_word word).mark '(' closed (by decide) (by decide)

/-- Whether some references are those of the symbols of an expression, and besides them only to
the C library. -/
structure NamesSymbols (symbol : String → Reference) (expr : Expr Float) (found : List Reference) :
    Prop where
  known : ∀ reference ∈ found,
    reference.IsLibrary ∨ ∃ name, expr.contains name ∧ reference = symbol name
  named : ∀ name, expr.contains name → symbol name ∈ found

/-- A reference to the library does not matter. -/
theorem NamesSymbols.library (names : NamesSymbols symbol expr found) (known : name ∈ mathNames) :
    NamesSymbols symbol expr (⟨name, none⟩ :: found) where
  known := List.forall_mem_cons.2 ⟨.inl ⟨known, rfl⟩, names.known⟩
  named name occurs := List.mem_cons_of_mem _ (names.named name occurs)

/-- The references of both operands are those of an operation. -/
theorem NamesSymbols.binary {operation : Operation} (first : NamesSymbols symbol left found)
    (second : NamesSymbols symbol right found') :
    NamesSymbols symbol (.binary operation left right) (found ++ found') where
  known := by
    refine List.forall_mem_append.2 ⟨fun reference member => ?_, fun reference member => ?_⟩
    · exact (first.known reference member).imp_right fun ⟨name, occurs, same⟩ =>
        ⟨name, by rw [Expr.contains, occurs, Bool.true_or], same⟩
    · exact (second.known reference member).imp_right fun ⟨name, occurs, same⟩ =>
        ⟨name, by rw [Expr.contains, occurs, Bool.or_true], same⟩
  named name occurs := by
    rw [Expr.contains, Bool.or_eq_true] at occurs
    exact List.mem_append.2 (occurs.imp (first.named name) (second.named name))

/-- The text of an expression refers to its symbols as they are written, and besides them only
to the C library. -/
theorem exists_hasReferences_expression
    (named : ∀ name, expr.contains name → HasReferences (naming name).toList [symbol name]) :
    ∃ found, HasReferences (expression naming expr).toList found ∧
      NamesSymbols symbol expr found := by
  induction expr with
  | literal value =>
    obtain ⟨found, has, library⟩ := exists_hasReferences_number value
    exact ⟨found, has, fun reference member => .inl (library reference member),
      fun name occurs => absurd occurs Bool.false_ne_true⟩
  | symbol name =>
    have occurs : (Expr.symbol name : Expr Float).contains name := by simp [Expr.contains]
    refine ⟨_, named name occurs, fun reference member => .inr ⟨name, occurs, ?_⟩, ?_⟩
    · exact List.mem_singleton.1 member
    · intro other same
      obtain rfl : name = other := beq_iff_eq.1 same
      exact List.mem_singleton_self _
  | neg operand ih =>
    obtain ⟨found, has, names⟩ := ih named
    rw [toList_neg]
    exact ⟨found, (has.operand _).after '-' (by decide), names.known, names.named⟩
  | binary operation left right ihLeft ihRight =>
    obtain ⟨found, has, names⟩ :=
      ihLeft fun name occurs => named name (by simp [Expr.contains, occurs])
    obtain ⟨found', has', names'⟩ :=
      ihRight fun name occurs => named name (by simp [Expr.contains, occurs])
    cases known : operator? operation with
    | some operator =>
      have sign : isRunPart (operatorCharacter operation) = false := by
        cases operation <;> decide
      rw [toList_between known]
      exact ⟨_, (has.operand _).mark ' ' (((has'.operand _).after ' ' (by decide)).after _ sign)
        (by decide) (by decide), names.binary names'⟩
    | none =>
      have isMath : callName operation ∈ mathNames := by
        cases operation <;> first | decide | contradiction
      have arguments := has.mark ',' (has'.after ' ' (by decide)) (by decide) (by decide)
      rw [toList_operation known]
      exact ⟨_, arguments.call (isWord_callName known), (names.binary names').library isMath⟩
  | call function argument ih =>
    have isMath : function.cName ∈ mathNames := by
      cases function <;> decide
    obtain ⟨found, has, names⟩ := ih named
    have library := names.library isMath
    rw [toList_call]
    exact ⟨_, has.call (isWord_cName function), library.known, library.named⟩

end Expressions

section Arrays

variable {output : OutputArray}

/-- What a symbol is written as: an entry of the state as the entry of `x` at its place, and any
other symbol as its name. -/
def stateReference (state : List String) (name : String) : Reference :=
  if name ∈ state then ⟨"x", some (state.idxOf name)⟩ else ⟨name, none⟩

/-- The text of a readable symbol is one reference. -/
theorem hasReferences_symbol (distinct : state.Nodup) (readable : Readable state name) :
    HasReferences (stateNaming "x" state name).toList [stateReference state name] := by
  rw [stateReference]
  by_cases member : name ∈ state
  · rw [if_pos member, stateNaming_of_getElem? distinct (getElem?_idxOf_of_mem member)]
    exact hasReferences_entry _
  · rw [if_neg member, stateNaming_of_notMem member]
    exact hasReferences_word (readable.resolve_left member).1

/-- The text of an expression with readable symbols refers to them. -/
theorem namesSymbols_references (distinct : state.Nodup)
    (readable : ∀ name, expr.contains name → Readable state name) :
    NamesSymbols (stateReference state) expr
      (references (expression (stateNaming "x" state) expr).toList) := by
  obtain ⟨found, has, names⟩ := exists_hasReferences_expression fun name occurs =>
    hasReferences_symbol distinct (readable name occurs)
  have whole := has [] nofun
  have nothing : references [] = [] := rfl
  rw [List.append_nil, nothing, List.append_nil] at whole
  exact whole ▸ names

example : references "-gain * pow(x[12], 2.5e10)".toList =
    [⟨"gain", none⟩, ⟨"pow", none⟩, ⟨"x", some 12⟩] := by
  decide

/-- The texts that are listed for an array have the references of its elements. -/
theorem Declarable.map_references_pieces (declarable : Declarable state output)
    (distinct : state.Nodup) :
    (pieces 0 (initializer (stateNaming "x" state) output.array)).map references =
      output.array.written.map fun expr =>
        references (expression (stateNaming "x" state) expr).toList := by
  obtain ⟨first, others, written, listed⟩ := declarable.exists_pieces distinct
  -- The blank after a comma is no name.
  have blank : references ∘ (fun expr => ' ' :: (expression (stateNaming "x" state) expr).toList) =
      fun expr => references (expression (stateNaming "x" state) expr).toList := rfl
  rw [listed, written, List.map_cons, List.map_cons, List.map_map, blank]

/-- The text that is listed at the place of an element refers to its symbols. -/
theorem Declarable.exists_piece (declarable : Declarable state output) (distinct : state.Nodup)
    {place : Nat} (element : output.array.rowMajor[place]? = some expr) :
    ∃ text, (pieces 0 (initializer (stateNaming "x" state) output.array))[place]? = some text ∧
      NamesSymbols (stateReference state) expr (references text) := by
  have present : output.array.size ≠ 0 :=
    Nat.ne_zero_of_lt (List.getElem?_eq_some_iff.1 element).1
  have listed := congrArg (·[place]?) (declarable.map_references_pieces distinct)
  rw [ExprArray.written, if_neg present, List.getElem?_map, List.getElem?_map, element,
    Option.map_some] at listed
  obtain ⟨text, found, same⟩ := Option.map_eq_some_iff.1 listed
  have names := namesSymbols_references distinct
    (declarable.readable expr (List.mem_of_getElem? element))
  exact ⟨text, found, same ▸ names⟩

/-- The placeholder in an array without elements refers to nothing. -/
theorem Declarable.references_placeholder (declarable : Declarable state output)
    (distinct : state.Nodup) (empty : output.array.size = 0) :
    ∀ text ∈ pieces 0 (initializer (stateNaming "x" state) output.array), references text = [] := by
  have listed := declarable.map_references_pieces distinct
  have zero : (expression (stateNaming "x" state) (.literal 0.0)).toList = "0.0".toList := rfl
  have noName : references "0.0".toList = [] := by decide
  rw [ExprArray.written, if_pos empty, List.map_singleton, zero, noName] at listed
  intro text member
  exact List.mem_singleton.1 (listed ▸ List.mem_map_of_mem member)

end Arrays

end Reader

end KalmanHeader
