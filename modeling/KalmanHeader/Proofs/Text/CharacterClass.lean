import Mathlib.Data.Bool.Basic
import Mathlib.Tactic.Tauto
import KalmanHeader.Text.CharacterClass

/-!
# Classes of characters as ranges

The classes that the tokens of expression text are made of, as ranges of code
points. That two classes have no character in common is then arithmetic. A run of
characters of a class ends where another character follows.
-/

namespace KalmanHeader.Text

variable {character : Char}

/-- A character is its code point. -/
theorem eq_iff_toNat {other : Char} : character = other ↔ character.toNat = other.toNat :=
  Char.toNat_inj.symm

/-- The letters in upper case. -/
theorem isUpper_iff :
    character.isUpper ↔ 65 ≤ character.toNat ∧ character.toNat ≤ 90 := by
  change decide (65 ≤ character.val ∧ character.val ≤ 90) = true ↔ _
  rw [decide_eq_true_iff]
  exact Iff.rfl

/-- The letters in lower case. -/
theorem isLower_iff :
    character.isLower ↔ 97 ≤ character.toNat ∧ character.toNat ≤ 122 := by
  change (decide (97 ≤ character.val) && decide (character.val ≤ 122)) = true ↔ _
  rw [Bool.and_eq_true, decide_eq_true_iff, decide_eq_true_iff]
  exact Iff.rfl

/-- The letters and the underscore. -/
theorem isWordStart_iff :
    isWordStart character ↔
      65 ≤ character.toNat ∧ character.toNat ≤ 90 ∨
        97 ≤ character.toNat ∧ character.toNat ≤ 122 ∨ character.toNat = 95 := by
  change (character.isUpper || character.isLower || character == '_') = true ↔ _
  rw [Bool.or_eq_true, Bool.or_eq_true, isUpper_iff, isLower_iff, beq_iff_eq, eq_iff_toNat, or_assoc]
  exact Iff.rfl

/-- The letters, the underscore and the digits. -/
theorem isWordPart_iff :
    isWordPart character ↔
      isWordStart character ∨ 48 ≤ character.toNat ∧ character.toNat ≤ 57 := by
  have digit : character.isDigit ↔ 48 ≤ character.toNat ∧ character.toNat ≤ 57 :=
    Char.isDigit_iff_toNat
  rw [← digit]
  simp only [isWordPart, isWordStart, Char.isAlphanum, Bool.or_eq_true]
  tauto

/-- A character that starts a word is also part of one. -/
theorem isWordPart_of_isWordStart (start : isWordStart character) : isWordPart character :=
  isWordPart_iff.2 (.inl start)

/-- A digit is part of a word. -/
theorem isWordPart_of_isDigit (digit : character.isDigit) : isWordPart character :=
  isWordPart_iff.2 (.inr (Char.isDigit_iff_toNat.1 digit))

/-- A letter in upper case is one of that case, and a digit stays as it is. -/
theorem toNat_toUpper (alphanumeric : character.isAlphanum) :
    65 ≤ character.toUpper.toNat ∧ character.toUpper.toNat ≤ 90 ∨
      48 ≤ character.toUpper.toNat ∧ character.toUpper.toNat ≤ 57 := by
  have part : isWordPart character := by rw [isWordPart, alphanumeric, Bool.true_or]
  rw [isWordPart_iff, isWordStart_iff] at part
  unfold Char.toUpper
  split
  · rename_i lower
    have low : 97 ≤ character.val.toNat := lower.1
    have high : character.val.toNat ≤ 122 := lower.2
    have shift : ((65 : UInt32) - 97).toNat = 2 ^ 32 - 32 := by decide
    left
    change 65 ≤ (character.val + (65 - 97)).toNat ∧ (character.val + (65 - 97)).toNat ≤ 90
    rw [UInt32.toNat_add, shift]
    omega
  · rename_i noLower
    have upper : ¬(97 ≤ character.toNat ∧ character.toNat ≤ 122) := noLower
    have plain : character.toNat ≠ 95 := by
      intro underscore
      obtain rfl : character = '_' := eq_iff_toNat.2 underscore
      contradiction
    omega

/-- A letter or digit in upper case is part of a word. -/
theorem isWordPart_toUpper (alphanumeric : character.isAlphanum) :
    isWordPart character.toUpper := by
  rw [isWordPart_iff, isWordStart_iff]
  have range := toNat_toUpper alphanumeric
  omega

/-- A letter or digit in upper case is no letter in lower case. -/
theorem isLower_toUpper (alphanumeric : character.isAlphanum) :
    character.toUpper.isLower = false := by
  have range := toNat_toUpper alphanumeric
  refine Bool.eq_false_of_not_eq_true fun lower => ?_
  rw [isLower_iff] at lower
  omega

/-- The visible ASCII characters are no blanks. -/
theorem isBlank_eq_false (low : 32 < character.toNat) (high : character.toNat < 127) :
    isBlank character = false := by
  have ranges : ∀ range ∈ blankRanges, range.2 ≤ 32 ∨ 127 ≤ range.1 := by decide
  refine List.any_eq_false.2 fun range member => ?_
  have outside := ranges range member
  rw [decide_eq_true_eq]
  omega

/-- No word contains a blank. -/
theorem isBlank_of_isWordPart (part : isWordPart character) : isBlank character = false := by
  rw [isWordPart_iff, isWordStart_iff] at part
  exact isBlank_eq_false (by omega) (by omega)

/-- No word starts with a digit or a point. -/
theorem not_isDigit_of_isWordStart (start : isWordStart character) :
    (character.isDigit || character == '.') = false := by
  rw [isWordStart_iff] at start
  have noDigit : ¬character.isDigit := by
    rw [Char.isDigit_iff_toNat]
    change ¬(48 ≤ character.toNat ∧ character.toNat ≤ 57)
    omega
  have noPoint : character ≠ '.' := by
    rw [Ne, eq_iff_toNat]
    change character.toNat ≠ 46
    omega
  rw [Bool.eq_false_of_not_eq_true noDigit, Bool.false_or, beq_eq_false_iff_ne]
  exact noPoint

section Runs

variable {part : Char → Bool} {run rest : List Char}

/-- A run at the front of a text ends where another character follows. -/
theorem takeWhile_run (parts : ∀ character ∈ run, part character)
    (stop : ∀ character ∈ rest.head?, ¬part character) : (run ++ rest).takeWhile part = run := by
  rw [List.takeWhile_append_of_pos parts]
  cases rest with
  | nil => rw [List.takeWhile_nil, List.append_nil]
  | cons first others => rw [List.takeWhile_cons_of_neg (stop first rfl), List.append_nil]

/-- What follows the run at the front of a text. -/
theorem dropWhile_run (parts : ∀ character ∈ run, part character)
    (stop : ∀ character ∈ rest.head?, ¬part character) : (run ++ rest).dropWhile part = rest := by
  rw [List.dropWhile_append_of_pos parts]
  cases rest with
  | nil => rfl
  | cons first others => exact List.dropWhile_cons_of_neg (stop first rfl)

end Runs

end KalmanHeader.Text
