import KalmanHeader.Proofs.Expr.Spelling
import KalmanHeader.Proofs.Results

/-!
# Writing tokens

Tokens are written one after another with blanks between them. The text of a token ends
where a blank follows, whatever it is read as otherwise, so reading what has been written
gives the tokens back. And every text is read as tokens that can be written, save that a
numeral may name infinity.
-/

namespace KalmanHeader

namespace Number

/-- No fraction is rounded beyond infinity. -/
theorem nearestBits_le (numerator denominator : Nat) :
    nearestBits numerator denominator ≤ infinityBits := by
  unfold nearestBits
  split
  · exact Nat.zero_le _
  · exact Nat.min_le_left _ _

/-- No decimal number is rounded beyond infinity. -/
theorem Decimal.toBits_le (decimal : Decimal) : decimal.toBits ≤ infinityBits := by
  unfold toBits
  split
  · exact Nat.zero_le _
  · split
    · exact Nat.le_refl _
    · split
      · exact Nat.zero_le _
      · exact nearestBits_le _ _

/-- A decimal number without sign is a double without sign, a finite one or infinity. -/
theorem Decimal.toFloat_positive (decimal : Decimal) :
    isNegative (decimal.toFloat false) = false ∧
      ((decimal.toFloat false).isFinite ∨ (decimal.toFloat false).isInf) := by
  unfold toFloat
  rcases Nat.lt_or_eq_of_le decimal.normalize.toBits_le with finite | infinite
  · exact ⟨isNegative_ofSignBits finite, .inl (isFinite_ofSignBits finite)⟩
  · rw [infinite]
    exact ⟨by decide, .inr (by decide)⟩

end Number

namespace Token

open Number Text

/-- Whether a token has the form of those that text is read as: a number has no sign, a name is
a word, and an operator is a character that starts neither of them and is no other token. -/
def IsLexical : Token Float → Prop
  | .number value => isNegative value = false ∧ (value.isFinite ∨ value.isInf)
  | .word name => C.isWord name.toList
  | .operator character => IsSymbol character ∧ character ∉ ['(', ')', ',']
  | .openParen | .closeParen | .comma => True

/-- Whether the number that a token is, if it is one, is finite. -/
def IsFinite : Token Float → Prop
  | .number value => value.isFinite
  | _ => True

instance (token : Token Float) : Decidable token.IsLexical :=
  match token with
  | .number _ | .operator _ => inferInstanceAs (Decidable (_ ∧ _))
  | .word _ => inferInstanceAs (Decidable (_ = true))
  | .openParen | .closeParen | .comma => inferInstanceAs (Decidable True)

instance (token : Token Float) : Decidable token.IsFinite :=
  match token with
  | .number _ => inferInstanceAs (Decidable (_ = true))
  | .word _ | .operator _ | .openParen | .closeParen | .comma => inferInstanceAs (Decidable True)

/-- Whether a token is written as a text. A number has two texts, and so has a caret. -/
inductive Writes : Token Float → List Char → Prop where
  | plain (value : Float) : Writes (.number value) (plainStyle.text value).toList
  | exact (value : Float) : Writes (.number value) (exactStyle.text value).toList
  | word (name : String) : Writes (.word name) name.toList
  | openParen : Writes .openParen ['(']
  | closeParen : Writes .closeParen [')']
  | comma : Writes .comma [',']
  | operator (character : Char) : Writes (.operator character) [character]
  | power : Writes (.operator '^') ['*', '*']

/-- Whether tokens are written as a text that starts with the first of them: after each comes
what separates it from the next, and after the last perhaps nothing. -/
inductive Written : List (Token Float) → List Char → Prop where
  | nil : Written [] []
  | cons {token : Token Float} {tokens : List (Token Float)} {text gap rest : List Char}
      (writes : token.Writes text) (blank : ∀ character ∈ gap, isBlank character)
      (apart : tokens ≠ [] → gap ≠ []) (others : Written tokens rest) :
      Written (token :: tokens) (text ++ (gap ++ rest))

/-- Whether a text is tokens in their order with blanks between them and perhaps at the ends. -/
def IsWriting (tokens : List (Token Float)) (text : String) : Prop :=
  ∃ lead rest, (∀ character ∈ lead, isBlank character) ∧ text.toList = lead ++ rest ∧
    Written tokens rest

variable {text gap rest : List Char} {token : Token Float} {tokens : List (Token Float)}
  {character : Char}

section Reading

/-- Whether a text ends or goes on with a blank. -/
def Ends (rest : List Char) : Prop :=
  ∀ character ∈ rest.head?, isBlank character

/-- Whether a text is read as a token where it ends or a blank follows. -/
def Reads (text : List Char) (token : Token Float) : Prop :=
  ∀ position rest, Ends rest →
    tokenizeFrom position (text ++ rest) = (tokenizeFrom (position + 1) rest).map (token :: ·)

/-- A blank is a boundary. -/
theorem Ends.boundary (ends : Ends rest) : Boundary rest := by
  intro character first
  have blank := ends character first
  refine ⟨Bool.eq_false_of_not_eq_true fun part => ?_, ?_⟩
  · rw [isBlank_of_isWordPart part] at blank
    contradiction
  · rintro rfl
    exact absurd blank (by decide)

/-- What spells a token is read as that token. -/
theorem reads_of_spells (spells : Spells text [token]) : Reads text token :=
  fun position _ ends => spells position _ ends.boundary

/-- The digits of a finite number without sign spell that number. -/
theorem spells_text {style : Style} (readable : style.Readable) {value : Float}
    (finite : value.isFinite = true) (positive : isNegative value = false) :
    Spells (style.text value).toList [.number value] := by
  obtain ⟨bits, small, rfl⟩ : ∃ bits, bits < infinityBits ∧ value = ofSignBits false bits := by
    refine ⟨magnitudeBits value, magnitudeBits_lt finite, ?_⟩
    rw [← positive]
    exact eq_ofSignBits finite
  rw [style.toList_text_ofSignBits small, if_neg Bool.false_ne_true]
  exact spells_shortest readable small

/-- A symbol that is no other token is an operator. An asterisk is one only where no other
follows. -/
theorem reads_operator (symbol : IsSymbol character) (other : character ∉ ['(', ')', ',']) :
    Reads [character] (.operator character) := by
  by_cases asterisk : character = '*'
  · obtain rfl := asterisk
    intro position rest ends
    have single : ofSymbol (ν := Float) '*' rest = (.operator '*', rest) := by
      cases rest with
      | nil => rfl
      | cons next more =>
        have different : next ≠ '*' := by
          rintro rfl
          exact absurd (ends '*' rfl) (by decide)
        unfold ofSymbol
        split <;> simp_all
    rw [List.singleton_append, tokenizeFrom, if_neg (by decide), if_neg (by decide),
      if_neg (by decide), single]
  · have operator : ofSingle character = .operator character := by
      unfold ofSingle ofSymbol
      split <;> simp_all
    exact reads_of_spells (operator ▸ spells_nil.symbol symbol asterisk)

/-- The text of a token is read as that token. -/
theorem Writes.reads (writes : token.Writes text) (lexical : token.IsLexical)
    (finite : token.IsFinite) : Reads text token := by
  have symbol {character : Char} (symbol : IsSymbol character) (single : character ≠ '*') :
      Reads [character] (ofSingle character) :=
    reads_of_spells (spells_nil.symbol symbol single)
  cases writes with
  | plain value => exact reads_of_spells (spells_text ⟨.inl rfl, .inl rfl⟩ finite lexical.1)
  | exact value => exact reads_of_spells (spells_text ⟨.inr rfl, .inl rfl⟩ finite lexical.1)
  | word name => exact reads_of_spells (spells_word lexical)
  | openParen => exact symbol (by decide) (by decide)
  | closeParen => exact symbol (by decide) (by decide)
  | comma => exact symbol (by decide) (by decide)
  | operator character => exact reads_operator lexical.1 lexical.2
  | power =>
    intro position rest ends
    rw [List.cons_append, tokenizeFrom, if_neg (by decide), if_neg (by decide),
      if_neg (by decide)]
    rfl

/-- Blanks in front of a text mean nothing. -/
theorem tokenizeFrom_blanks (blank : ∀ character ∈ gap, isBlank character) (position : Nat)
    (rest : List Char) : tokenizeFrom position (gap ++ rest) = tokenizeFrom position rest := by
  induction gap with
  | nil => rfl
  | cons first others ih =>
    obtain ⟨head, tail⟩ := List.forall_mem_cons.1 blank
    rw [List.cons_append, tokenizeFrom, if_pos head, ih tail]

/-- What follows a token that is written is the end of the text or a blank. -/
theorem Written.ends (others : Written tokens rest) (blank : ∀ character ∈ gap, isBlank character)
    (apart : tokens ≠ [] → gap ≠ []) : Ends (gap ++ rest) := by
  cases gap with
  | cons first more =>
    rintro character ⟨⟩
    exact blank first List.mem_cons_self
  | nil =>
    cases others with
    | nil => exact nofun
    | cons => exact absurd rfl (apart (List.cons_ne_nil _ _))

/-- Tokens that are written are read. -/
theorem Written.tokenizeFrom_eq (written : Written tokens text)
    (form : ∀ token ∈ tokens, token.IsLexical ∧ token.IsFinite) (position : Nat) :
    tokenizeFrom position text = .ok tokens := by
  induction written generalizing position with
  | nil => rw [tokenizeFrom]
  | cons writes blank apart others ih =>
    obtain ⟨⟨lexical, finite⟩, form⟩ := List.forall_mem_cons.1 form
    rw [writes.reads lexical finite position _ (others.ends blank apart),
      tokenizeFrom_blanks blank, ih form]
    rfl

end Reading

section Forms

/-- A word is the characters of a text up to one that is no part of it. -/
theorem isWord_takeWhile (start : isWordStart character) (rest : List Char) :
    C.isWord (character :: rest.takeWhile isWordPart) := by
  rw [C.isWord, start, Bool.true_and]
  exact List.all_takeWhile

/-- The token of a symbol has the form of one. -/
theorem isLexical_ofSymbol (symbol : IsSymbol character) (rest : List Char) :
    (ofSymbol character rest : Token Float × List Char).1.IsLexical := by
  unfold ofSymbol
  split
  · trivial
  · trivial
  · trivial
  · exact ⟨by decide, by decide⟩
  · rename_i noOpening noClosing noComma _
    refine ⟨symbol, ?_⟩
    simp only [List.mem_cons, List.not_mem_nil, or_false, not_or]
    exact ⟨noOpening, noClosing, noComma⟩

/-- What a text is read as has the form of tokens. -/
theorem isLexical_of_tokenizeFrom {position : Nat}
    (read : tokenizeFrom position text = .ok tokens) : ∀ token ∈ tokens, token.IsLexical := by
  fun_induction tokenizeFrom position text generalizing tokens with
  | case1 position =>
    obtain rfl := Except.ok.inj read
    exact List.forall_mem_nil _
  | case2 position character rest blank ih => exact ih read
  | case3 position character rest noBlank start run decimal found =>
    rename_i ih
    obtain ⟨others, further, rfl⟩ := map_eq_ok.1 read
    exact List.forall_mem_cons.2 ⟨decimal.toFloat_positive, ih further⟩
  | case4 => contradiction
  | case5 position character rest noBlank noDigit start name =>
    rename_i ih
    obtain ⟨others, further, rfl⟩ := map_eq_ok.1 read
    refine List.forall_mem_cons.2 ⟨?_, ih further⟩
    rw [IsLexical, String.toList_ofList]
    exact isWord_takeWhile start rest
  | case6 position character rest noBlank noDigit noStart symbol =>
    rename_i ih
    obtain ⟨others, further, rfl⟩ := map_eq_ok.1 read
    have single : IsSymbol character :=
      ⟨Bool.eq_false_of_not_eq_true noBlank, Bool.eq_false_of_not_eq_true noDigit,
        Bool.eq_false_of_not_eq_true noStart⟩
    exact List.forall_mem_cons.2 ⟨isLexical_ofSymbol single rest, ih further⟩

end Forms

end Token

variable {tokens : List (Token Float)} {text : String}

/-- Tokens of the form that text is read as, with finite numbers, are read back from any text
that they are written as with blanks between them. -/
theorem tokenize_of_isWriting (form : ∀ token ∈ tokens, token.IsLexical ∧ token.IsFinite)
    (writing : Token.IsWriting tokens text) : tokenize text = .ok tokens := by
  obtain ⟨lead, rest, blank, whole, written⟩ := writing
  rw [tokenize, whole, Token.tokenizeFrom_blanks blank, written.tokenizeFrom_eq form]

/-- Reading a text undoes writing tokens. Whatever is read has the form of tokens that can be
written, except that numbers may be infinite. So what is read from a text without infinite
numbers is read again however it is written. -/
theorem tokenize_undoes_writing :
    (∀ (tokens : List (Token Float)) (text : String),
      (∀ token ∈ tokens, token.IsLexical ∧ token.IsFinite) → Token.IsWriting tokens text →
        tokenize text = .ok tokens) ∧
    (∀ (text : String) (tokens : List (Token Float)), tokenize text = .ok tokens →
      ∀ token ∈ tokens, token.IsLexical) ∧
    ∀ (text text' : String) (tokens : List (Token Float)), tokenize text = .ok tokens →
      (∀ token ∈ tokens, token.IsFinite) → Token.IsWriting tokens text' →
        tokenize text' = .ok tokens := by
  have lexical : ∀ (text : String) (tokens : List (Token Float)), tokenize text = .ok tokens →
      ∀ token ∈ tokens, token.IsLexical :=
    fun _ _ read => Token.isLexical_of_tokenizeFrom read
  refine ⟨fun _ _ => tokenize_of_isWriting, lexical, ?_⟩
  intro text text' tokens read finite writing
  exact tokenize_of_isWriting
    (fun token member => ⟨lexical text tokens read token member, finite token member⟩) writing

/-- A product with a power, which is written with two asterisks after another one, on two
lines. -/
theorem tokenize_undoes_writing_of_product :
    tokenize ("\t" ++ (Number.plainStyle.text 2.5 ++ (" *\nx ** " ++
      (Number.exactStyle.text 0.5 ++ " ")))) =
        .ok [.number 2.5, .operator '*', .word "x", .operator '^', .number 0.5] := by
  obtain ⟨undone, -, -⟩ := tokenize_undoes_writing
  refine undone _ _ (by decide) ⟨['\t'], _, List.forall_mem_singleton.2 (by decide),
    String.toList_append, ?_⟩
  have space : ∀ character ∈ [' '], Text.isBlank character :=
    List.forall_mem_singleton.2 (by decide)
  have line : ∀ character ∈ ['\n'], Text.isBlank character :=
    List.forall_mem_singleton.2 (by decide)
  have present : ∀ {character : Char}, [character] ≠ [] := List.cons_ne_nil _ _
  have written := Token.Written.cons (.plain 2.5) space (fun _ => present) <|
    .cons (.operator '*') line (fun _ => present) <| .cons (.word "x") space (fun _ => present) <|
      .cons .power space (fun _ => present) <| .cons (.exact 0.5) space nofun .nil
  rw [String.toList_append, String.toList_append, String.toList_append]
  exact written

end KalmanHeader
