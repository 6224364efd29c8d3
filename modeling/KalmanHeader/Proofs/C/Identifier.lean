import KalmanHeader.C.Identifier
import KalmanHeader.Proofs.Text.CharacterClass

/-!
# What an identifier is

A name may land in C source when it is an identifier of C: a letter or an underscore, then
letters, digits and underscores, and no keyword. That is said here in ranges of characters
and with the keywords listed by what they are for, and the check that names have to pass is
the same.
-/

namespace KalmanHeader.C

variable {character : Char} {name : String}

/-- A letter of C: one of ASCII in either case, or the underscore. -/
def IsLetter (character : Char) : Prop :=
  'A' ≤ character ∧ character ≤ 'Z' ∨ 'a' ≤ character ∧ character ≤ 'z' ∨ character = '_'

/-- The keywords of C: what belongs to types and to declarations, and what belongs to
statements and expressions. -/
def keywordNames : List String := [
  "void", "char", "short", "int", "long", "float", "double", "signed", "unsigned", "struct",
  "union", "enum", "typedef", "const", "volatile", "restrict", "auto", "register", "static",
  "extern", "inline",
  "if", "else", "switch", "case", "default", "for", "while", "do", "break", "continue", "goto",
  "return", "sizeof"]

/-- Whether a name is an identifier: letters and digits after a letter, and no keyword. -/
structure IsIdentifier (name : String) : Prop where
  isWord : ∃ first rest, name.toList = first :: rest ∧ IsLetter first ∧
    ∀ character ∈ rest, IsLetter character ∨ '0' ≤ character ∧ character ≤ '9'
  isFree : name ∉ keywordNames

/-- The letters are what words start with. -/
theorem isLetter_iff : IsLetter character ↔ Text.isWordStart character := by
  rw [Text.isWordStart_iff, IsLetter, Text.eq_iff_toNat]
  rfl

/-- The letters and digits are what words go on with. -/
theorem isLetter_or_digit_iff :
    IsLetter character ∨ '0' ≤ character ∧ character ≤ '9' ↔ Text.isWordPart character := by
  rw [Text.isWordPart_iff, isLetter_iff]
  rfl

/-- The keywords that names are checked against are those of C. -/
theorem mem_keywords_iff : name ∈ keywords ↔ name ∈ keywordNames := by
  have same : keywords.Perm keywordNames := by decide
  exact same.mem_iff

/-- A name passes as an identifier exactly when it is one. -/
theorem isIdentifier_iff : isIdentifier name ↔ IsIdentifier name := by
  have word : isWord name.toList ↔ ∃ first rest, name.toList = first :: rest ∧ IsLetter first ∧
      ∀ character ∈ rest, IsLetter character ∨ '0' ≤ character ∧ character ≤ '9' := by
    simp only [isLetter_or_digit_iff]
    simp only [isLetter_iff]
    cases name.toList with
    | nil => exact ⟨nofun, nofun⟩
    | cons first rest =>
      constructor
      · intro word
        obtain ⟨head, tail⟩ := Bool.and_eq_true_iff.1 word
        exact ⟨first, rest, rfl, head, List.all_eq_true.1 tail⟩
      · rintro ⟨_, _, ⟨⟩, head, tail⟩
        exact Bool.and_eq_true_iff.2 ⟨head, List.all_eq_true.2 tail⟩
  rw [isIdentifier, Bool.and_eq_true, word, Bool.not_eq_true', List.contains_eq_mem,
    decide_eq_false_iff_not, mem_keywords_iff]
  constructor
  · rintro ⟨isWord, isFree⟩
    exact ⟨isWord, isFree⟩
  · rintro ⟨isWord, isFree⟩
    exact ⟨isWord, isFree⟩

end KalmanHeader.C
