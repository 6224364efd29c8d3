import KalmanHeader.Json.Basic

/-!
# Laying out JSON text

Compact text has no blanks; indented text has a line for every item and member.
Both escape in a string no more than JSON asks for. A double that is no number
is written as `null`, and so is whatever a broken value stands for.
-/

namespace KalmanHeader.Json

/-- Numbers are written out from `0.00001` up to but not including `10 ^ 16`, and
an exponent always has its sign. -/
def numberStyle : Number.Style where
  isPositional exponent := decide (-5 ≤ exponent ∧ exponent < 16)
  wholeSuffix := ['.', '0']
  plusSign := ['+']
  tie := .toEven
  nan := ['n', 'u', 'l', 'l']
  infinity := ['n', 'u', 'l', 'l']
  negativeInfinity := ['n', 'u', 'l', 'l']

/-- How a character is written inside a string. -/
def escaped (character : Char) : List Char :=
  if character = '"' then ['\\', '"']
  else if character = '\\' then ['\\', '\\']
  else if character = '\x08' then ['\\', 'b']
  else if character = '\x0c' then ['\\', 'f']
  else if character = '\n' then ['\\', 'n']
  else if character = '\r' then ['\\', 'r']
  else if character = '\t' then ['\\', 't']
  else if character.toNat < 0x20 then
    ['\\', 'u', '0', '0', Nat.digitChar (character.toNat / 16),
      Nat.digitChar (character.toNat % 16)]
  else [character]

/-- The text of a string with its quotes. -/
def stringText (value : String) : String :=
  String.ofList ('"' :: value.toList.flatMap escaped ++ ['"'])

/-- The text of a value that holds no others. -/
def leafText : Json → String
  | .bool true => "true"
  | .bool false => "false"
  | .integer value => toString value
  | .float value => numberStyle.text value
  | .string value => stringText value
  | _ => "null"

mutual

/-- The text of a value without blanks. -/
def compact : Json → String
  | .array items _ => "[" ++ ",".intercalate (compactItems items) ++ "]"
  | .object members _ => "\x7b" ++ ",".intercalate (compactMembers members) ++ "\x7d"
  | leaf => leafText leaf

/-- The texts of the items of an array. -/
def compactItems : List Json → List String
  | [] => []
  | item :: items => item.compact :: compactItems items

/-- The texts of the members of an object. -/
def compactMembers : List (String × Json) → List String
  | [] => []
  | (key, value) :: members => (stringText key ++ ":" ++ value.compact) :: compactMembers members

end

/-- Text between brackets on lines of their own. -/
def bracketed (opening closing indentation : String) (lines : List String) : String :=
  match lines with
  | [] => opening ++ closing
  | _ =>
    opening ++ "\n" ++ indentation ++ "  " ++ (",\n" ++ indentation ++ "  ").intercalate lines ++
      "\n" ++ indentation ++ closing

mutual

/-- The text of a value over several lines, where `indentation` precedes the
line that the value starts in. -/
def indented (indentation : String) : Json → String
  | .array items _ => bracketed "[" "]" indentation (indentedItems (indentation ++ "  ") items)
  | .object members _ =>
    bracketed "\x7b" "\x7d" indentation (indentedMembers (indentation ++ "  ") members)
  | leaf => leafText leaf

/-- The texts of the items of an array. -/
def indentedItems (indentation : String) : List Json → List String
  | [] => []
  | item :: items => item.indented indentation :: indentedItems indentation items

/-- The texts of the members of an object. -/
def indentedMembers (indentation : String) : List (String × Json) → List String
  | [] => []
  | (key, value) :: members =>
    (stringText key ++ ": " ++ value.indented indentation) :: indentedMembers indentation members

end

/-- The text of a value with an indentation of two blanks for each bracket. -/
def pretty (value : Json) : String :=
  value.indented ""

end KalmanHeader.Json
