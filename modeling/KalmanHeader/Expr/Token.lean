import KalmanHeader.Number.Layout
import KalmanHeader.Text.CharacterClass
import KalmanHeader.Text.Quoted

/-!
# Tokens of expression text

Expression text is read as numerals, words, parentheses, commas and operator
characters; blanks separate them and mean nothing. A character that starts none
of the others is an operator, known or not, so that the grammar can report it
where it stands. `tokenize` is the only way from text to tokens.
-/

namespace KalmanHeader

/-- A token of expression text, with numbers of type `ν`. -/
inductive Token (ν : Type) where
  | number (value : ν)
  | word (name : String)
  | openParen
  | closeParen
  | comma
  | operator (character : Char)
  deriving DecidableEq, Repr

/-- A place in a token list where reading had to stop. -/
structure ParseError (ν : Type) where
  /-- How many tokens come before the place. -/
  position : Nat
  /-- The token at the place, unless the list ends there. -/
  found : Option (Token ν)
  /-- What could have followed. -/
  expected : List String
  deriving DecidableEq, Repr

namespace Token

/-- How error messages show a token. -/
def display : Token Float → String
  | .number value => "Num(" ++ Number.exactStyle.text value ++ ")"
  | .word name => "Ident(" ++ Text.quoted name ++ ")"
  | .openParen => "LParen"
  | .closeParen => "RParen"
  | .comma => "Comma"
  | .operator character => "Op(" ++ Text.quotedCharacter character ++ ")"

end Token

/-- The text of a parse error. The token found is shown as present or absent
when something was expected, and by itself otherwise. -/
def ParseError.message (error : ParseError Float) : String :=
  "parse error at token " ++ toString error.position ++ " found=" ++
    if error.expected.isEmpty then
      match error.found with
      | some token => token.display
      | none => "<end>"
    else
      (match error.found with
        | some token => "Some(" ++ token.display ++ ")"
        | none => "None") ++
      " expected=[" ++ ", ".intercalate (error.expected.map Text.quoted) ++ "]"

namespace Token

/-- The characters from the front that belong to a numeral, and those after
them. A sign belongs to it only right after an exponent mark; `afterMark` says
whether one has just been read. -/
def numeralRun (afterMark : Bool) : List Char → List Char × List Char
  | [] => ([], [])
  | character :: rest =>
    if character.isDigit || character == '.' then
      let run := numeralRun false rest
      (character :: run.1, run.2)
    else if character == 'e' || character == 'E' then
      let run := numeralRun true rest
      (character :: run.1, run.2)
    else if (character == '+' || character == '-') && afterMark then
      let run := numeralRun false rest
      (character :: run.1, run.2)
    else ([], character :: rest)

/-- A numeral and what follows it are the whole text. -/
theorem numeralRun_append (afterMark : Bool) (text : List Char) :
    (numeralRun afterMark text).1 ++ (numeralRun afterMark text).2 = text := by
  induction text generalizing afterMark with
  | nil => rfl
  | cons character rest ih =>
    unfold numeralRun
    split
    · simp [ih]
    · split
      · simp [ih]
      · split <;> simp [ih]

/-- What follows a numeral is no longer than the text. -/
theorem length_numeralRun_le (afterMark : Bool) (text : List Char) :
    (numeralRun afterMark text).2.length ≤ text.length := by
  have whole := congrArg List.length (numeralRun_append afterMark text)
  rw [List.length_append] at whole
  omega

/-- What is left after dropping characters is no longer than the text. -/
theorem length_dropWhile_le (belongs : Char → Bool) (text : List Char) :
    (text.dropWhile belongs).length ≤ text.length :=
  (List.dropWhile_suffix belongs).length_le

/-- The token of a character that starts neither a numeral nor a word, and the
text after it. Two asterisks are one token, the same as a caret. -/
def ofSymbol (character : Char) (rest : List Char) : Token ν × List Char :=
  match character, rest with
  | '(', _ => (.openParen, rest)
  | ')', _ => (.closeParen, rest)
  | ',', _ => (.comma, rest)
  | '*', '*' :: rest' => (.operator '^', rest')
  | _, _ => (.operator character, rest)

/-- The text after a symbol is no longer than the text at it. -/
theorem length_ofSymbol_le (character : Char) (rest : List Char) :
    (ofSymbol (ν := ν) character rest).2.length ≤ rest.length := by
  unfold ofSymbol
  split <;> simp

/-- The tokens of `text`, where `position` tokens came before. The only failure
is a numeral that names no number. -/
def tokenizeFrom (position : Nat) (text : List Char) :
    Except (ParseError Float) (List (Token Float)) :=
  match text with
  | [] => .ok []
  | character :: rest =>
    if Text.isBlank character then tokenizeFrom position rest
    else if character.isDigit || character == '.' then
      let run := numeralRun false rest
      match Number.readDecimal? (character :: run.1) with
      | some decimal =>
        (tokenizeFrom (position + 1) run.2).map (.number (decimal.toFloat false) :: ·)
      | none =>
        .error ⟨position, none, ["number (got '" ++ String.ofList (character :: run.1) ++ "')"]⟩
    else if Text.isWordStart character then
      let name := String.ofList (character :: rest.takeWhile Text.isWordPart)
      (tokenizeFrom (position + 1) (rest.dropWhile Text.isWordPart)).map (.word name :: ·)
    else
      let symbol := ofSymbol character rest
      (tokenizeFrom (position + 1) symbol.2).map (symbol.1 :: ·)
termination_by text.length
decreasing_by
  · simp
  · have := length_numeralRun_le false rest
    simp only [List.length_cons]
    omega
  · have := length_dropWhile_le Text.isWordPart rest
    simp only [List.length_cons]
    omega
  · have := length_ofSymbol_le (ν := Float) character rest
    simp only [List.length_cons]
    omega

end Token

/-- The tokens of expression text. -/
def tokenize (text : String) : Except (ParseError Float) (List (Token Float)) :=
  Token.tokenizeFrom 0 text.toList

end KalmanHeader
