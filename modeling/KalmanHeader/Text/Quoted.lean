import KalmanHeader.Text.Unseen

/-!
# Quoted text

Error messages show characters and names between quotes, so that a blank, a
line break or an invisible character can be told apart. The quote that encloses
the text and the backslash are escaped, the usual controls have a letter, and
characters without a glyph of their own are spelled by their number.
-/

namespace KalmanHeader.Text

/-- How `character` is shown inside text enclosed by `quote`. -/
def escaped (quote character : Char) : List Char :=
  if character = '\x00' then ['\\', '0']
  else if character = '\t' then ['\\', 't']
  else if character = '\n' then ['\\', 'n']
  else if character = '\r' then ['\\', 'r']
  else if character = '\\' then ['\\', '\\']
  else if character = quote then ['\\', quote]
  else if isUnseen character then
    ['\\', 'u', '\x7b'] ++ Nat.toDigits 16 character.toNat ++ ['\x7d']
  else [character]

/-- One character between single quotes. -/
def quotedCharacter (character : Char) : String :=
  String.ofList ('\'' :: escaped '\'' character ++ ['\''])

/-- Text between double quotes. -/
def quoted (text : String) : String :=
  String.ofList ('"' :: text.toList.flatMap (escaped '"') ++ ['"'])

end KalmanHeader.Text
