/-!
# Classes of characters

Blanks, which separate tokens, are the Unicode property `White_Space`: 25
characters, among them the line and paragraph separators and the no-break
spaces. Words, which name symbols, functions and declarations, are made of
ASCII letters, digits and underscores only.
-/

namespace KalmanHeader.Text

/-- The white-space characters as closed ranges, ascending and apart. -/
def blankRanges : List (Nat × Nat) := [
  (0x09, 0x0D), (0x20, 0x20), (0x85, 0x85), (0xA0, 0xA0), (0x1680, 0x1680), (0x2000, 0x200A),
  (0x2028, 0x2029), (0x202F, 0x202F), (0x205F, 0x205F), (0x3000, 0x3000)]

/-- Whether `character` is white space. -/
def isBlank (character : Char) : Bool :=
  blankRanges.any fun range =>
    decide (range.1 ≤ character.toNat ∧ character.toNat ≤ range.2)

/-- An ASCII letter or an underscore: what an identifier starts with. -/
def isWordStart (character : Char) : Bool :=
  character.isAlpha || character == '_'

/-- An ASCII letter, an ASCII digit or an underscore: what an identifier goes on
with. -/
def isWordPart (character : Char) : Bool :=
  character.isAlphanum || character == '_'

end KalmanHeader.Text
