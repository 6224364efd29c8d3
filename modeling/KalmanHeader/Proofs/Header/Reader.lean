import KalmanHeader.Expr.Parser

/-!
# Reading a header back

A reader of generated headers that knows nothing of how they are composed. It takes
the declarations of constants from the body of the function, splits their
initializers at the commas outside parentheses and parses each element, where an
entry of the state stands for the symbol at its place. The arguments of the function
stand between the same commas in the line before its body, and so do those of each call
that copies an array. Sizes are digits in brackets, or names that a line before has defined
as numbers. The names that an element refers to are the runs of word characters in it that
are no numbers.
-/

namespace KalmanHeader.Reader

/-- The lines of the function: those after the last line that is an opening brace, up
to the closing one. -/
def bodyLines (text : String) : List (List Char) :=
  ((text.toList.splitOn '\n').reverse.takeWhile (· != ['\x7b'])).reverse.takeWhile
    (· != ['\x7d'])

/-- What a declaration of constants starts with. -/
def declarationStart : List Char :=
  "    const double ".toList

/-- The name and the initializer that a line declares, if it declares constants. -/
def declaration? (line : List Char) : Option (String × List Char) :=
  if declarationStart.isPrefixOf line then
    let declared := line.drop declarationStart.length
    some (String.ofList (declared.takeWhile (· != '[')),
      ((declared.dropWhile (· != '\x7b')).drop 1).takeWhile (· != '\x7d'))
  else none

/-- How many parentheses are open after a character, where `depth` were open
before. -/
def depthAfter (depth : Nat) (character : Char) : Nat :=
  if character = '(' then depth + 1
  else if character = ')' then depth - 1
  else depth

/-- The parts of a text between the commas outside parentheses, where `depth`
parentheses are open. -/
def pieces (depth : Nat) : List Char → List (List Char)
  | [] => [[]]
  | character :: rest =>
    if character = ',' ∧ depth = 0 then [] :: pieces 0 rest
    else (pieces (depthAfter depth character) rest).modifyHead (character :: ·)

/-- The line that the function starts with: that before the last line that is an opening
brace. -/
def headLine (text : String) : List Char :=
  (((text.toList.splitOn '\n').reverse.dropWhile (· != ['\x7b'])).drop 1).headD []

/-- The arguments of the function, as they stand between the commas of its first line. -/
def arguments (text : String) : List String :=
  (pieces 0 ((((headLine text).dropWhile (· != '(')).drop 1).takeWhile (· != ')'))).map fun piece =>
    String.ofList (piece.dropWhile (· == ' '))

/-- The name that an argument declares: its last word, without the extents. -/
def argumentName (argument : String) : String :=
  String.ofList
    ((argument.toList.reverse.takeWhile (· != ' ')).reverse.takeWhile (· != '['))

/-- What a line that calls for a copy starts with. -/
def copyStart : List Char :=
  "    memcpy(".toList

/-- The arguments of the call on a line that calls for a copy. -/
def copy? (line : List Char) : Option (List String) :=
  if copyStart.isPrefixOf line then
    let inner := (((line.drop copyStart.length).reverse.dropWhile (· != ')')).drop 1).reverse
    some ((pieces 0 inner).map fun piece => String.ofList (piece.dropWhile (· == ' ')))
  else none

/-- The arguments of the calls for copies in the body of the function. -/
def copies (text : String) : List (List String) :=
  (bodyLines text).filterMap copy?

/-- What a line that defines a name starts with. -/
def definitionStart : List Char :=
  "#define ".toList

/-- The name and the number that a line defines, if it defines a number. -/
def definition? (line : List Char) : Option (String × Nat) :=
  if definitionStart.isPrefixOf line then
    let defined := line.drop definitionStart.length
    let digits := (defined.dropWhile (· != ' ')).drop 1
    if digits ≠ [] ∧ digits.all Char.isDigit then
      some (String.ofList (defined.takeWhile (· != ' ')), Nat.ofDigitChars 10 digits 0)
    else none
  else none

/-- The numbers that names are defined as, the last definition first. -/
def definitions (text : String) : List (String × Nat) :=
  ((text.toList.splitOn '\n').filterMap definition?).reverse

/-- What stands in the brackets of a text. -/
def brackets : List Char → List (List Char)
  | [] => []
  | character :: rest =>
    if character = '[' then rest.takeWhile (· != ']') :: brackets rest else brackets rest

/-- The number that an extent stands for: that of its digits, or the one that its name is
defined as. -/
def extent? (defined : List (String × Nat)) (size : List Char) : Option Nat :=
  if size.all Char.isDigit then some (Nat.ofDigitChars 10 size 0)
  else defined.lookup (String.ofList size)

/-- The extents of an argument of the function. -/
def extents? (text argument : String) : Option (List Nat) :=
  (brackets argument.toList).mapM (extent? (definitions text))

/-- The numbers in the brackets of a text. -/
def subscripts : List Char → List Nat
  | [] => []
  | character :: rest =>
    if character = '[' then
      Nat.ofDigitChars 10 (rest.takeWhile Char.isDigit) 0 :: subscripts rest
    else subscripts rest

/-- A declaration of constants: its size, and how many elements its initializer has. -/
structure Declared where
  name : String
  size : Nat
  listed : Nat
  deriving DecidableEq

/-- What a line declares, if it declares constants. -/
def declared? (line : List Char) : Option Declared :=
  (declaration? line).bind fun declared =>
    (subscripts line).head?.map fun size => ⟨declared.1, size, (pieces 0 declared.2).length⟩

/-- The declarations of constants in the body of the function. -/
def declarations (text : String) : List Declared :=
  (bodyLines text).filterMap declared?

/-- The declarations of constants in the body of the function, each with its name and the
texts of its elements. -/
def initializers (text : String) : List (String × List (List Char)) :=
  ((bodyLines text).filterMap declaration?).map fun declared => (declared.1, pieces 0 declared.2)

/-- A name in a text, with the number in the brackets after it. -/
structure Reference where
  name : String
  subscript : Option Nat
  deriving DecidableEq

/-- Whether a name starts with a character. -/
def isNameStart (character : Char) : Bool :=
  character.isAlpha || character == '_'

/-- Whether a name or a number goes on with a character. -/
def isRunPart (character : Char) : Bool :=
  character.isAlphanum || character == '_' || character == '.'

/-- The number in the brackets that a text starts with. -/
def leadingSubscript? : List Char → Option Nat
  | '[' :: rest =>
    let digits := rest.takeWhile Char.isDigit
    if digits ≠ [] ∧ (rest.dropWhile Char.isDigit).head? = some ']' then
      some (Nat.ofDigitChars 10 digits 0)
    else none
  | _ => none

/-- The names in a text, where `within` says whether it starts within a name or a number. -/
def referencesFrom (within : Bool) : List Char → List Reference
  | [] => []
  | character :: rest =>
    if isRunPart character then
      if !within && isNameStart character then
        ⟨String.ofList (character :: rest.takeWhile isRunPart),
          leadingSubscript? (rest.dropWhile isRunPart)⟩ :: referencesFrom true rest
      else referencesFrom true rest
    else referencesFrom false rest

/-- The names in a text. -/
def references (text : List Char) : List Reference :=
  referencesFrom false text

/-- The tokens with each entry of the state replaced by the symbol at its place,
where `places` are the subscripts in order. -/
def resolve (state : List String) : List Nat → List (Token Float) → Option (List (Token Float))
  | _, [] => some []
  | place :: places,
      .word "x" :: .operator '[' :: .number _ :: .operator ']' :: tokens =>
    match state[place]? with
    | some name => (resolve state places tokens).map (.word name :: ·)
    | none => none
  | places, token :: tokens => (resolve state places tokens).map (token :: ·)

/-- The expression that an element of an initializer is. -/
def element? (state : List String) (text : List Char) : Option (Expr Float) :=
  match tokenize (String.ofList text) with
  | .error _ => none
  | .ok tokens => (resolve state (subscripts text) tokens).bind fun tokens =>
    (Expr.ofTokens tokens).toOption

/-- The arrays that a header declares, each with its name and its elements in
order. -/
def arrays? (state : List String) (text : String) :
    Option (List (String × List (Expr Float))) :=
  ((bodyLines text).filterMap declaration?).mapM fun declared =>
    ((pieces 0 declared.2).mapM (element? state)).map fun elements => (declared.1, elements)

end KalmanHeader.Reader
