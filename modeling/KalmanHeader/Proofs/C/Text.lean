import KalmanHeader.C.Expression
import KalmanHeader.C.Identifier
import KalmanHeader.Proofs.Expr.Parts
import KalmanHeader.Proofs.Expr.Spelling

/-!
# The characters of an expression in C

The written form of each kind of node as a list of characters, and from it what
holds of all characters of an expression: they are those of its symbols, of its
numbers, and the few marks and letters that nodes are written with.
-/

namespace KalmanHeader.C

open Number

variable {naming : Naming}

/-- The character of an operator that is written between its operands. -/
def operatorCharacter : Operation → Char
  | .add => '+'
  | .sub => '-'
  | .mul => '*'
  | .div => '/'
  | .pow | .atan2 => ' '

section Nodes

/-- The characters of an operand. -/
def operandCharacters (enclose : Bool) (text : List Char) : List Char :=
  if enclose then '(' :: (text ++ [')']) else text

/-- The characters of an operand. -/
theorem toList_operandText (enclose : Bool) (text : String) :
    (operandText enclose text).toList = operandCharacters enclose text.toList := by
  cases enclose <;> simp [operandText, operandCharacters]

/-- The characters of a negation. -/
theorem toList_neg (operand : Expr Float) :
    (expression naming (.neg operand)).toList =
      '-' :: operandCharacters (isSigned operand || strength operand < 3)
        (expression naming operand).toList := by
  rw [expression, String.toList_append, toList_operandText]
  rfl

/-- The characters of two operands with an operator between them. -/
theorem toList_between {operation : Operation} {between : String} {level : Nat}
    (known : operator? operation = some (between, level)) (left right : Expr Float) :
    (expression naming (.binary operation left right)).toList =
      operandCharacters (isSigned left || strength left < level) (expression naming left).toList ++
        (' ' :: operatorCharacter operation :: ' ' ::
          operandCharacters (isSigned right || strength right ≤ level)
            (expression naming right).toList) := by
  have sign : between.toList = [' ', operatorCharacter operation, ' '] := by
    cases operation with
    | add | sub | mul | div =>
      obtain ⟨rfl, rfl⟩ := Prod.mk.inj (Option.some.inj known)
      rfl
    | pow | atan2 => contradiction
  rw [expression]
  simp only [known]
  rw [String.toList_append, String.toList_append, toList_operandText, toList_operandText, sign]
  simp

/-- The characters of an operation that is written as a call. -/
theorem toList_operation {operation : Operation} (call : operator? operation = none)
    (left right : Expr Float) :
    (expression naming (.binary operation left right)).toList =
      (callName operation).toList ++ '(' ::
        ((expression naming left).toList ++ ',' :: ' ' :: (expression naming right).toList ++
          [')']) := by
  rw [expression]
  simp [call, separator]

/-- The characters of a call. -/
theorem toList_call (function : Elementary) (argument : Expr Float) :
    (expression naming (.call function argument)).toList =
      function.cName.toList ++ '(' :: ((expression naming argument).toList ++ [')']) := by
  simp [expression]

end Nodes

section Numbers

/-- Whether a character can be part of a finite number in C. -/
def IsNumberCharacter (character : Char) : Prop :=
  character.isDigit ∨ character = '.' ∨ character = 'e' ∨ character = '-'

instance (character : Char) : Decidable (IsNumberCharacter character) :=
  inferInstanceAs (Decidable (_ ∨ _ ∨ _ ∨ _))

/-- Digits are part of numbers. -/
theorem isNumberCharacter_of_digits {text : List Char}
    (digits : ∀ character ∈ text, character.isDigit) :
    ∀ character ∈ text, IsNumberCharacter character :=
  fun character member => .inl (digits character member)

/-- Digits and points are part of numbers. -/
theorem isNumberCharacter_of_isPlain {text : List Char} (plain : Token.IsPlain text) :
    ∀ character ∈ text, IsNumberCharacter character := by
  intro character member
  rcases plain.digit_or_point character member with digit | point
  · exact .inl digit
  · exact .inr (.inl point)

/-- The characters of a number that is written out. -/
theorem isNumberCharacter_positionalText {decimal : Decimal} :
    ∀ character ∈ positionalText ['.', '0'] decimal, IsNumberCharacter character :=
  isNumberCharacter_of_isPlain (Token.isPlain_positionalText (.inr rfl) decimal)

/-- The characters of a number that is written with an exponent. -/
theorem isNumberCharacter_scientificText {decimal : Decimal} :
    ∀ character ∈ scientificText [] decimal, IsNumberCharacter character := by
  have power := isNumberCharacter_of_digits
    (@isDigit_of_mem_toDigits (decimal.magnitude - 1).natAbs)
  have mark : IsNumberCharacter 'e' := .inr (.inr (.inl rfl))
  have minus : IsNumberCharacter '-' := .inr (.inr (.inr rfl))
  have sign : ∀ character ∈ (if decimal.magnitude - 1 < 0 then ['-'] else []),
      IsNumberCharacter character := by
    split
    · exact List.forall_mem_singleton.2 minus
    · exact List.forall_mem_nil _
  obtain ⟨mantissa, plain, layout⟩ := Token.exists_isPlain_scientificText [] decimal
  rw [layout]
  simp only [List.forall_mem_append, List.forall_mem_cons]
  exact ⟨isNumberCharacter_of_isPlain plain, mark, sign, power⟩

/-- The characters of the digits of a number in C. -/
theorem isNumberCharacter_decimalText (decimal : Decimal) :
    ∀ character ∈ numberStyle.decimalText decimal, IsNumberCharacter character := by
  unfold Style.decimalText
  split
  · exact isNumberCharacter_positionalText
  · exact isNumberCharacter_scientificText

/-- The characters of a finite number in C. -/
theorem isNumberCharacter_number {value : Float} (finite : value.isFinite = true) :
    ∀ character ∈ (number value).toList, IsNumberCharacter character := by
  have small := magnitudeBits_lt finite
  rw [eq_ofSignBits finite, number]
  split
  · intro character member
    have either : character = '0' ∨ character = '.' ∨ character = '0' := by simpa using member
    rcases either with rfl | rfl | rfl
    · exact .inl (by decide)
    · exact .inr (.inl rfl)
    · exact .inl (by decide)
  · rw [Style.toList_text_ofSignBits _ small]
    split
    · exact List.forall_mem_cons.2 ⟨.inr (.inr (.inr rfl)), isNumberCharacter_decimalText _⟩
    · exact isNumberCharacter_decimalText _

end Numbers

section Words

/-- The names of functions are words. -/
theorem isWord_cName (function : Elementary) : isWord function.cName.toList := by
  cases function <;> decide

/-- The names of the operations that are written as calls are words. -/
theorem isWord_callName {operation : Operation} (call : operator? operation = none) :
    isWord (callName operation).toList := by
  cases operation <;> first | decide | contradiction

/-- A word is made of word characters. -/
theorem isWordPart_of_isWord {text : List Char} (word : isWord text) :
    ∀ character ∈ text, Text.isWordPart character := by
  cases text with
  | nil => exact List.forall_mem_nil _
  | cons first rest =>
    rw [isWord, Bool.and_eq_true, List.all_eq_true] at word
    exact List.forall_mem_cons.2 ⟨Text.isWordPart_of_isWordStart word.1, word.2⟩

/-- Any other character is not in a word. -/
theorem notMem_of_isWord {text : List Char} {character : Char} (word : isWord text)
    (noPart : Text.isWordPart character = false) : character ∉ text := by
  intro member
  rw [isWordPart_of_isWord word character member] at noPart
  contradiction

end Words

section Characters

/-- The marks that expressions are written with. -/
def marks : List Char :=
  [' ', '+', '-', '*', '/', '(', ')', ',', '.']

variable {allowed : Char → Prop} {text : List Char}

/-- The characters of an operand are those of its text and parentheses. -/
theorem forall_mem_operand (enclose : Bool) (marked : ∀ character ∈ marks, allowed character)
    (inner : ∀ character ∈ text, allowed character) :
    ∀ character ∈ operandCharacters enclose text, allowed character := by
  have opening : allowed '(' := marked _ (by decide)
  have closing : allowed ')' := marked _ (by decide)
  cases enclose with
  | false => exact inner
  | true =>
    exact List.forall_mem_cons.2
      ⟨opening, List.forall_mem_append.2 ⟨inner, List.forall_mem_singleton.2 closing⟩⟩

/-- The characters of a number are word characters and marks, also where it has no digits. -/
theorem forall_mem_number (words : ∀ character, Text.isWordPart character → allowed character)
    (marked : ∀ character ∈ marks, allowed character) (value : Float) :
    ∀ character ∈ (number value).toList, allowed character := by
  have spelled : ∀ text : List Char,
      (text.all fun character => Text.isWordPart character || marks.contains character) = true →
        ∀ character ∈ text, allowed character := by
    intro text either character member
    rcases Bool.or_eq_true_iff.1 (List.all_eq_true.1 either character member) with part | mark
    · exact words character part
    · exact marked character (List.contains_iff_mem.1 mark)
  have digits : ∀ decimal, ∀ character ∈ numberStyle.decimalText decimal, allowed character := by
    intro decimal character member
    rcases isNumberCharacter_decimalText decimal character member with digit | rfl | rfl | rfl
    · exact words character (Text.isWordPart_of_isDigit digit)
    · exact marked _ (by decide)
    · exact words _ (by decide)
    · exact marked _ (by decide)
  rw [number]
  split
  · exact spelled _ rfl
  · rw [Style.text, String.toList_ofList, Style.characters]
    split
    · exact spelled _ rfl
    · split
      · split
        · exact spelled _ rfl
        · exact spelled _ rfl
      · dsimp only
        split
        · exact List.forall_mem_cons.2 ⟨marked _ (by decide), digits _⟩
        · exact digits _

/-- The operators are marks. -/
theorem operatorCharacter_mem_marks (operation : Operation) :
    operatorCharacter operation ∈ marks := by
  cases operation <;> decide

/-- The characters of an expression are word characters, marks and those of its
symbols. -/
theorem forall_mem_expression {expr : Expr Float}
    (words : ∀ character, Text.isWordPart character → allowed character)
    (marked : ∀ character ∈ marks, allowed character)
    (named : ∀ name, expr.contains name → ∀ character ∈ (naming name).toList, allowed character) :
    ∀ character ∈ (expression naming expr).toList, allowed character := by
  have blank : allowed ' ' := marked _ (by decide)
  have minus : allowed '-' := marked _ (by decide)
  have comma : allowed ',' := marked _ (by decide)
  have opening : allowed '(' := marked _ (by decide)
  have closing : allowed ')' := marked _ (by decide)
  induction expr with
  | literal value => exact forall_mem_number words marked value
  | symbol name => exact named name (by simp [Expr.contains])
  | neg operand ih =>
    rw [toList_neg]
    exact List.forall_mem_cons.2
      ⟨minus, forall_mem_operand _ marked (ih named)⟩
  | binary operation left right ihLeft ihRight =>
    have left := ihLeft fun name found => named name (by simp [Expr.contains, found])
    have right := ihRight fun name found => named name (by simp [Expr.contains, found])
    cases known : operator? operation with
    | some operator =>
      rw [toList_between known]
      simp only [List.forall_mem_append, List.forall_mem_cons]
      exact ⟨forall_mem_operand _ marked left, blank,
        marked _ (operatorCharacter_mem_marks operation), blank,
        forall_mem_operand _ marked right⟩
    | none =>
      rw [toList_operation known]
      simp only [List.forall_mem_append, List.forall_mem_cons]
      exact ⟨fun character member => words character (isWordPart_of_isWord (isWord_callName known) _ member),
        opening, ⟨left, comma, blank, right⟩, closing, List.forall_mem_nil _⟩
  | call function argument ih =>
    rw [toList_call]
    simp only [List.forall_mem_append, List.forall_mem_cons]
    exact ⟨fun character member => words character (isWordPart_of_isWord (isWord_cName function) _ member), opening,
      ih named, closing, List.forall_mem_nil _⟩

end Characters

end KalmanHeader.C
