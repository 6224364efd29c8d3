import KalmanHeader.Text.CharacterClass

/-!
# Identifiers of C

A name that lands in C source has to be a word that is no keyword. Names given
by the user are checked; the include guard that is derived from a file name is
made of word characters in the first place.
-/

namespace KalmanHeader.C

/-- The keywords of C. -/
def keywords : List String := [
  "auto", "break", "case", "char", "const", "continue", "default", "do", "double", "else",
  "enum", "extern", "float", "for", "goto", "if", "inline", "int", "long", "register",
  "restrict", "return", "short", "signed", "sizeof", "static", "struct", "switch", "typedef",
  "union", "unsigned", "void", "volatile", "while"]

/-- Whether the characters are a word: a letter or underscore, then letters,
digits and underscores. -/
def isWord : List Char → Bool
  | [] => false
  | first :: rest => Text.isWordStart first && rest.all Text.isWordPart

/-- Whether a name can be declared in C. -/
def isIdentifier (name : String) : Bool :=
  isWord name.toList && !keywords.contains name

/-- A character as it appears in an include guard: letters in upper case, and an
underscore for whatever no word may hold. -/
def guardCharacter (character : Char) : Char :=
  if character.isAlphanum then character.toUpper else '_'

/-- The include guard for a header in the file `fileName`. -/
def guardOfFileName (fileName : String) : String :=
  match fileName.toList.map guardCharacter with
  | [] => "EKF_MODEL_H"
  | first :: rest =>
    if first.isDigit then String.ofList ('_' :: first :: rest) else String.ofList (first :: rest)

end KalmanHeader.C
