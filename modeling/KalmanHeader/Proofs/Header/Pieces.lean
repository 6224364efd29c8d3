import KalmanHeader.Proofs.C.Text
import KalmanHeader.Proofs.Header.Reader

/-!
# The elements of an initializer

The text of an expression closes every parenthesis that it opens and has no comma
outside them, so the commas outside parentheses are exactly the separators between
the elements of an initializer.
-/

namespace KalmanHeader.Reader

variable {text text' : List Char}

/-- Whether a text is one piece of whatever it stands in. -/
def Balanced (text : List Char) : Prop :=
  ∀ depth rest, pieces depth (text ++ rest) = (pieces depth rest).modifyHead (text ++ ·)

/-- Whether a text is one piece of whatever it stands in within parentheses. -/
def Inside (text : List Char) : Prop :=
  ∀ depth rest,
    pieces (depth + 1) (text ++ rest) = (pieces (depth + 1) rest).modifyHead (text ++ ·)

/-- Two changes at the front are one. -/
theorem modifyHead_append (front front' : List Char) (parts : List (List Char)) :
    (parts.modifyHead (front' ++ ·)).modifyHead (front ++ ·) =
      parts.modifyHead (front ++ front' ++ ·) := by
  cases parts with
  | nil => rfl
  | cons part parts => simp [List.modifyHead]

section Composition

/-- Nothing is balanced. -/
theorem balanced_nil : Balanced [] := by
  intro depth rest
  cases found : pieces depth rest <;> simp [found, List.modifyHead]

/-- Two balanced texts in a row are balanced. -/
theorem Balanced.append (first : Balanced text) (second : Balanced text') :
    Balanced (text ++ text') := by
  intro depth rest
  rw [List.append_assoc, first, second, modifyHead_append]

/-- A balanced text is one piece within parentheses as well. -/
theorem Balanced.inside (balanced : Balanced text) : Inside text :=
  fun depth => balanced (depth + 1)

/-- Two texts in a row within parentheses. -/
theorem Inside.append (first : Inside text) (second : Inside text') : Inside (text ++ text') := by
  intro depth rest
  rw [List.append_assoc, first, second, modifyHead_append]

/-- A character other than a comma or a parenthesis is balanced. -/
theorem balanced_single {character : Char} (noComma : character ≠ ',') (noOpening : character ≠ '(')
    (noClosing : character ≠ ')') : Balanced [character] := by
  intro depth rest
  rw [List.singleton_append, pieces, if_neg fun comma => noComma comma.1, depthAfter,
    if_neg noOpening, if_neg noClosing]
  rfl

/-- A text without commas and parentheses is balanced. -/
theorem balanced_plain
    (plain : ∀ character ∈ text, character ≠ ',' ∧ character ≠ '(' ∧ character ≠ ')') :
    Balanced text := by
  induction text with
  | nil => exact balanced_nil
  | cons first rest ih =>
    obtain ⟨⟨noComma, noOpening, noClosing⟩, others⟩ := List.forall_mem_cons.1 plain
    exact (balanced_single noComma noOpening noClosing).append (ih others)

/-- A comma within parentheses separates nothing. -/
theorem inside_comma : Inside [','] := by
  intro depth rest
  rw [List.singleton_append, pieces, if_neg fun comma => absurd comma.2 (Nat.succ_ne_zero _),
    depthAfter, if_neg (by decide), if_neg (by decide)]
  rfl

/-- Parentheses around a text make it balanced. -/
theorem Inside.enclosed (inside : Inside text) : Balanced ('(' :: (text ++ [')'])) := by
  intro depth rest
  have closing : pieces (depth + 1) (')' :: rest) =
      (pieces depth rest).modifyHead ([')'] ++ ·) := by
    rw [pieces, if_neg fun comma => absurd comma.1 (by decide), depthAfter, if_neg (by decide),
      if_pos rfl, Nat.add_sub_cancel]
    rfl
  rw [List.cons_append, List.append_assoc, List.singleton_append, pieces,
    if_neg fun comma => absurd comma.1 (by decide), depthAfter, if_pos rfl, inside, closing,
    modifyHead_append]
  exact modifyHead_append ['('] (text ++ [')']) _

end Composition

section Expressions

open C

/-- An operand is balanced. -/
theorem Balanced.operand (balanced : Balanced text) (enclose : Bool) :
    Balanced (operandCharacters enclose text) := by
  cases enclose with
  | false => exact balanced
  | true => exact balanced.inside.enclosed

/-- A character of a word is neither a comma nor a parenthesis. -/
theorem plain_of_isWordPart {character : Char} (part : Text.isWordPart character) :
    character ≠ ',' ∧ character ≠ '(' ∧ character ≠ ')' := by
  refine ⟨?_, ?_, ?_⟩ <;> rintro rfl <;> exact absurd part (by decide)

/-- A word is balanced. -/
theorem balanced_word (word : isWord text) : Balanced text :=
  balanced_plain fun character member =>
    plain_of_isWordPart (isWordPart_of_isWord word character member)

/-- A number is balanced. Only negative infinity has parentheses, around all of it. -/
theorem balanced_number (value : Float) : Balanced (number value).toList := by
  have spelled : ∀ text : List Char,
      (text.all fun character => character != ',' && character != '(' && character != ')') = true →
        Balanced text := by
    intro text plain
    simp only [List.all_eq_true, Bool.and_eq_true, bne_iff_ne, and_assoc] at plain
    exact balanced_plain plain
  have digits : ∀ decimal, Balanced (numberStyle.decimalText decimal) := by
    refine fun decimal => balanced_plain fun character member => ?_
    have part := isNumberCharacter_decimalText decimal character member
    refine ⟨?_, ?_, ?_⟩ <;> rintro rfl <;> exact absurd part (by decide)
  have minus : Balanced ['-'] := balanced_single (by decide) (by decide) (by decide)
  rw [number]
  split
  · exact spelled _ rfl
  · rw [Number.Style.text, String.toList_ofList, Number.Style.characters]
    split
    · exact spelled _ rfl
    · split
      · split
        · have inner : Balanced "-INFINITY".toList := spelled _ rfl
          exact inner.inside.enclosed
        · exact spelled _ rfl
      · dsimp only
        split
        · exact minus.append (digits _)
        · exact digits _

/-- An operator between blanks is balanced. -/
theorem balanced_operator (operation : Operation) :
    Balanced [' ', operatorCharacter operation, ' '] := by
  refine balanced_plain ?_
  cases operation <;> simp [operatorCharacter]

/-- The text of an expression is balanced. -/
theorem balanced_expression {naming : Naming} {expr : Expr Float}
    (named : ∀ name, expr.contains name → Balanced (naming name).toList) :
    Balanced (expression naming expr).toList := by
  induction expr with
  | literal value => exact balanced_number value
  | symbol name => exact named name (by simp [Expr.contains])
  | neg operand ih =>
    have minus : Balanced ['-'] := balanced_single (by decide) (by decide) (by decide)
    rw [toList_neg]
    exact minus.append ((ih named).operand _)
  | binary operation left right ihLeft ihRight =>
    have left := ihLeft fun name found => named name (by simp [Expr.contains, found])
    have right := ihRight fun name found => named name (by simp [Expr.contains, found])
    cases known : operator? operation with
    | some operator =>
      rw [toList_between known]
      exact (left.operand _).append ((balanced_operator operation).append (right.operand _))
    | none =>
      have blank : Balanced [' '] := balanced_single (by decide) (by decide) (by decide)
      rw [toList_operation known]
      exact (balanced_word (isWord_callName known)).append
        (left.inside.append (inside_comma.append (blank.append right).inside)).enclosed
  | call function argument ih =>
    rw [toList_call]
    exact (balanced_word (isWord_cName function)).append (ih named).inside.enclosed

/-- The pieces of balanced texts with separators between them are these texts, each
but the first after the blank of the separator. -/
theorem pieces_intercalate {first : String} {others : List String}
    (balanced : ∀ text ∈ first :: others, Balanced text.toList) :
    pieces 0 (separator.intercalate (first :: others)).toList =
      first.toList :: others.map fun text => ' ' :: text.toList := by
  induction others generalizing first with
  | nil =>
    have whole := balanced first List.mem_cons_self 0 []
    rw [List.append_nil] at whole
    rw [String.intercalate_singleton, whole]
    simp [pieces, List.modifyHead]
  | cons second others ih =>
    have blank : Balanced [' '] := balanced_single (by decide) (by decide) (by decide)
    obtain ⟨head, tail⟩ := List.forall_mem_cons.1 balanced
    have between : (separator.intercalate (first :: second :: others)).toList =
        first.toList ++ ',' :: ([' '] ++ (separator.intercalate (second :: others)).toList) := by
      rw [String.intercalate_cons_cons]
      simp [separator]
    rw [between, head, pieces, if_pos ⟨rfl, rfl⟩, blank, ih tail]
    simp [List.modifyHead]

end Expressions

end KalmanHeader.Reader
