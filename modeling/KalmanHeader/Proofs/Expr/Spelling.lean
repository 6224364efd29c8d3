import KalmanHeader.C.Identifier
import KalmanHeader.Expr.Token
import KalmanHeader.Proofs.Number.Numeral
import KalmanHeader.Proofs.Text.CharacterClass

/-!
# Spelling tokens

A text spells tokens if reading it gives these tokens and then those of whatever
follows, provided that what follows does not go on with the last token. Spelling
is composed from the texts of single tokens.
-/

namespace KalmanHeader.Token

open Number Text

/-- Whether a text in front of `text` ends with its last character: neither a word
nor a numeral goes on here. -/
def Boundary (text : List Char) : Prop :=
  ∀ character ∈ text.head?, isWordPart character = false ∧ character ≠ '.'

/-- Whether `text` in front of a boundary reads as `tokens`. -/
def Spells (text : List Char) (tokens : List (Token Float)) : Prop :=
  ∀ position rest, Boundary rest →
    tokenizeFrom position (text ++ rest) =
      (tokenizeFrom (position + tokens.length) rest).map (tokens ++ ·)

/-- Whether a character is a token by itself. -/
def IsSymbol (character : Char) : Prop :=
  isBlank character = false ∧ (character.isDigit || character == '.') = false ∧
    isWordStart character = false

instance (character : Char) : Decidable (IsSymbol character) :=
  inferInstanceAs (Decidable (_ ∧ _ ∧ _))

variable {text text' rest : List Char} {tokens tokens' : List (Token Float)} {character : Char}

/-- The end of the text is a boundary. -/
theorem boundary_nil : Boundary [] := by
  rintro character ⟨⟩

/-- A text that starts with a boundary is one. -/
theorem boundary_cons (noPart : isWordPart character = false) (noPoint : character ≠ '.') :
    Boundary (character :: text) := by
  rintro found ⟨⟩
  exact ⟨noPart, noPoint⟩

/-- The boundary before a text is its first character's, or that of what follows. -/
theorem Boundary.append (first : Boundary text) (second : Boundary rest) :
    Boundary (text ++ rest) := by
  cases text with
  | nil => exact second
  | cons character more => exact first

section Composition

/-- Nothing spells no tokens. -/
theorem spells_nil : Spells [] [] := by
  intro position rest boundary
  cases tokens : tokenizeFrom position rest with
  | error error => simp [tokens, Except.map]
  | ok found => simp [tokens, Except.map]

/-- One text after the other. -/
theorem Spells.append (first : Spells text tokens) (second : Spells text' tokens')
    (apart : Boundary text') : Spells (text ++ text') (tokens ++ tokens') := by
  intro position rest boundary
  rw [List.append_assoc, first position _ (apart.append boundary), second _ rest boundary,
    List.length_append, Nat.add_assoc]
  cases tokenizeFrom (position + (tokens.length + tokens'.length)) rest with
  | error error => rfl
  | ok found => simp [Except.map]

/-- A blank in front of a text. -/
theorem Spells.blank (after : Spells text tokens) : Spells (' ' :: text) tokens := by
  intro position rest boundary
  rw [List.cons_append, tokenizeFrom, if_pos (by decide)]
  exact after position rest boundary

/-- One token in front of the tokens of a text. -/
theorem Spells.cons (after : Spells text tokens) (token : Token Float) (position : Nat)
    (boundary : Boundary rest) :
    (tokenizeFrom (position + 1) (text ++ rest)).map (token :: ·) =
      (tokenizeFrom (position + (token :: tokens).length) rest).map (token :: tokens ++ ·) := by
  rw [after _ rest boundary, List.length_cons, Nat.add_assoc, Nat.add_comm 1]
  cases tokenizeFrom (position + (tokens.length + 1)) rest with
  | error error => rfl
  | ok found => rfl

/-- The token that is made of a symbol and nothing after it. -/
def ofSingle (character : Char) : Token Float :=
  (ofSymbol character []).1

/-- A symbol other than the asterisk is one token, whatever follows. -/
theorem ofSymbol_single (noAsterisk : character ≠ '*') :
    ofSymbol character rest = (ofSingle character, rest) := by
  unfold ofSingle ofSymbol
  split <;> simp_all

/-- A symbol in front of a text. -/
theorem Spells.symbol (after : Spells text tokens) (symbol : IsSymbol character)
    (noAsterisk : character ≠ '*') :
    Spells (character :: text) (ofSingle character :: tokens) := by
  intro position rest boundary
  obtain ⟨noBlank, noDigit, noWord⟩ := symbol
  rw [List.cons_append, tokenizeFrom]
  simp only [noBlank, noDigit, noWord, Bool.false_eq_true, ↓reduceIte,
    ofSymbol_single noAsterisk]
  exact after.cons _ position boundary

/-- An asterisk and a blank in front of a text. -/
theorem Spells.asterisk (after : Spells text tokens) :
    Spells ('*' :: ' ' :: text) (.operator '*' :: tokens) := by
  intro position rest boundary
  rw [List.cons_append, tokenizeFrom, if_neg (by decide), if_neg (by decide), if_neg (by decide)]
  exact after.blank.cons (.operator '*') position boundary

/-- A word by itself. -/
theorem spells_word {name : String} (word : C.isWord name.toList) :
    Spells name.toList [.word name] := by
  intro position rest boundary
  cases characters : name.toList with
  | nil =>
    rw [characters] at word
    exact absurd word (by decide)
  | cons first more =>
    rw [characters, C.isWord, Bool.and_eq_true, List.all_eq_true] at word
    obtain ⟨start, parts⟩ := word
    have stop : ∀ next ∈ rest.head?, ¬isWordPart next :=
      fun next first => Bool.eq_false_iff.1 (boundary next first).1
    rw [List.cons_append, tokenizeFrom]
    simp only [isBlank_of_isWordPart (isWordPart_of_isWordStart start),
      not_isDigit_of_isWordStart start, start, takeWhile_run parts stop, dropWhile_run parts stop,
      Bool.false_eq_true, ↓reduceIte]
    rw [← characters, String.ofList_toList]
    rfl

/-- A text that spells tokens is tokenized as these. -/
theorem tokenize_of_spells {text : String} {tokens : List (Token Float)}
    (spells : Spells text.toList tokens) :
    tokenize text = .ok tokens := by
  have whole := spells 0 [] boundary_nil
  rw [List.append_nil] at whole
  rw [tokenize, whole, tokenizeFrom]
  simp [Except.map]

end Composition

section Marks

/-- A minus sign in front of a text. -/
theorem spells_minus (after : Spells text tokens) :
    Spells ('-' :: text) (.operator '-' :: tokens) :=
  after.symbol (by decide) (by decide)

/-- Parentheses around a text. -/
theorem spells_enclosed (inner : Spells text tokens) :
    Spells ('(' :: (text ++ [')'])) (.openParen :: (tokens ++ [.closeParen])) := by
  have close : Spells [')'] [.closeParen] := spells_nil.symbol (by decide) (by decide)
  have apart : Boundary [')'] := boundary_cons (by decide) (by decide)
  exact (inner.append close apart).symbol (by decide) (by decide)

/-- Two texts with an operator between them. An asterisk stays one, since a blank follows. -/
theorem spells_between (sign : character ∈ ['+', '-', '*', '/', '^']) (left : Spells text tokens)
    (right : Spells text' tokens') :
    Spells (text ++ ' ' :: character :: ' ' :: text')
      (tokens ++ .operator character :: tokens') := by
  refine left.append ?_ (boundary_cons (by decide) (by decide))
  simp only [List.mem_cons, List.not_mem_nil, or_false] at sign
  rcases sign with rfl | rfl | rfl | rfl | rfl
  · exact (right.blank.symbol (by decide) (by decide)).blank
  · exact (right.blank.symbol (by decide) (by decide)).blank
  · exact right.asterisk.blank
  · exact (right.blank.symbol (by decide) (by decide)).blank
  · exact (right.blank.symbol (by decide) (by decide)).blank

/-- A call with the text of its arguments. -/
theorem spells_call {name : String} (word : C.isWord name.toList) (arguments : Spells text tokens) :
    Spells (name.toList ++ '(' :: (text ++ [')']))
      (.word name :: .openParen :: (tokens ++ [.closeParen])) :=
  (spells_word word).append (spells_enclosed arguments) (boundary_cons (by decide) (by decide))

/-- Two arguments with a comma between them. -/
theorem spells_arguments (left : Spells text tokens) (right : Spells text' tokens') :
    Spells (text ++ ',' :: ' ' :: text') (tokens ++ .comma :: tokens') :=
  left.append (right.blank.symbol (by decide) (by decide)) (boundary_cons (by decide) (by decide))

end Marks

section Numerals

/-- Whether a text is read as one numeral in front of a boundary. -/
def IsNumeral (text : List Char) : Prop :=
  ∃ first more, text = first :: more ∧ first.isDigit ∧
    ∀ rest, Boundary rest → numeralRun false (more ++ rest) = (more, rest)

/-- A boundary ends a numeral. -/
theorem numeralRun_boundary (boundary : Boundary rest) : numeralRun false rest = ([], rest) := by
  cases rest with
  | nil => rfl
  | cons character more =>
    obtain ⟨noPart, noPoint⟩ := boundary character rfl
    have noDigit : character.isDigit = false :=
      Bool.eq_false_of_not_eq_true fun digit =>
        absurd (isWordPart_of_isDigit digit) (by rw [noPart]; decide)
    have noMark : (character == 'e' || character == 'E') = false := by
      rw [Bool.or_eq_false_iff, beq_eq_false_iff_ne, beq_eq_false_iff_ne]
      constructor <;> rintro rfl <;> exact absurd noPart (by decide)
    rw [numeralRun]
    simp [noDigit, noPoint, noMark]

/-- Digits and points belong to a numeral. -/
theorem numeralRun_plain (plain : ∀ character ∈ text, character.isDigit || character == '.') :
    numeralRun false (text ++ rest) =
      (text ++ (numeralRun false rest).1, (numeralRun false rest).2) := by
  induction text with
  | nil => rfl
  | cons character more ih =>
    obtain ⟨first, others⟩ := List.forall_mem_cons.1 plain
    rw [List.cons_append, numeralRun, if_pos first]
    simp only [ih others]
    rfl

/-- A power of ten belongs to a numeral. -/
theorem numeralRun_scaling {sign : List Char} (signed : sign = [] ∨ sign = ['+'] ∨ sign = ['-'])
    {digits : List Char} (present : digits ≠ [])
    (plain : ∀ character ∈ digits, character.isDigit || character == '.')
    (boundary : Boundary rest) :
    numeralRun false ('e' :: (sign ++ digits) ++ rest) = ('e' :: (sign ++ digits), rest) := by
  have run : numeralRun false (digits ++ rest) = (digits, rest) := by
    rw [numeralRun_plain plain, numeralRun_boundary boundary, List.append_nil]
  have marked : numeralRun true (digits ++ rest) = (digits, rest) := by
    obtain ⟨first, more, rfl⟩ := List.exists_cons_of_ne_nil present
    obtain ⟨digit, others⟩ := List.forall_mem_cons.1 plain
    rw [List.cons_append, numeralRun, if_pos digit] at run ⊢
    exact run
  have signs : numeralRun true (sign ++ digits ++ rest) = (sign ++ digits, rest) := by
    rcases signed with rfl | rfl | rfl
    · exact marked
    · rw [List.append_assoc, List.singleton_append, numeralRun, if_neg (by decide),
        if_neg (by decide), if_pos (by decide), run]
      rfl
    · rw [List.append_assoc, List.singleton_append, numeralRun, if_neg (by decide),
        if_neg (by decide), if_pos (by decide), run]
      rfl
  rw [List.cons_append, numeralRun, if_neg (by decide), if_pos (by decide), signs]

/-- A numeral by itself. -/
theorem spells_numeral {decimal : Decimal} (numeral : IsNumeral text)
    (read : readDecimal? text = some decimal) : Spells text [.number (decimal.toFloat false)] := by
  obtain ⟨first, more, rfl, digit, run⟩ := numeral
  intro position rest boundary
  have noBlank := isBlank_of_isWordPart (isWordPart_of_isDigit digit)
  have start : (first.isDigit || first == '.') = true := by rw [digit, Bool.true_or]
  rw [List.cons_append, tokenizeFrom]
  simp only [noBlank, start, run rest boundary, Bool.false_eq_true, ↓reduceIte]
  split
  · rename_i decimal' found
    obtain rfl : decimal = decimal' := Option.some.inj (read.symm.trans found)
    rfl
  · rename_i none
    rw [read] at none
    contradiction

/-- Whether a text is a digit and then digits and points. -/
def IsPlain (text : List Char) : Prop :=
  ∃ first more, text = first :: more ∧ first.isDigit ∧
    ∀ character ∈ more, character.isDigit || character == '.'

/-- The characters of a plain text. -/
theorem IsPlain.digit_or_point (plain : IsPlain text) :
    ∀ character ∈ text, character.isDigit ∨ character = '.' := by
  obtain ⟨first, more, rfl, digit, others⟩ := plain
  refine List.forall_mem_cons.2 ⟨.inl digit, fun character member => ?_⟩
  simpa using others character member

/-- Digits are plain. -/
theorem isPlain_of_digits (present : text ≠ []) (digits : ∀ character ∈ text, character.isDigit) :
    IsPlain text := by
  obtain ⟨first, more, rfl⟩ := List.exists_cons_of_ne_nil present
  obtain ⟨digit, others⟩ := List.forall_mem_cons.1 digits
  refine ⟨first, more, rfl, digit, fun character member => ?_⟩
  rw [others character member, Bool.true_or]

/-- A plain text stays plain with a point and digits after it. -/
theorem IsPlain.point (plain : IsPlain text) (digits : ∀ character ∈ text', character.isDigit) :
    IsPlain (text ++ '.' :: text') := by
  obtain ⟨first, more, rfl, digit, others⟩ := plain
  refine ⟨first, more ++ '.' :: text', rfl, digit, ?_⟩
  refine List.forall_mem_append.2 ⟨others, List.forall_mem_cons.2 ⟨by decide, ?_⟩⟩
  intro character member
  rw [digits character member, Bool.true_or]

/-- A plain text is a numeral. -/
theorem IsPlain.isNumeral (plain : IsPlain text) : IsNumeral text := by
  obtain ⟨first, more, rfl, digit, others⟩ := plain
  refine ⟨first, more, rfl, digit, fun rest boundary => ?_⟩
  rw [numeralRun_plain others, numeralRun_boundary boundary, List.append_nil]

/-- A number that is written out is plain. -/
theorem isPlain_positionalText {wholeSuffix : List Char}
    (whole : wholeSuffix = [] ∨ wholeSuffix = ['.', '0']) (decimal : Decimal) :
    IsPlain (positionalText wholeSuffix decimal) := by
  have digits : ∀ character ∈ Nat.toDigits 10 decimal.digits, character.isDigit :=
    isDigit_of_mem_toDigits
  unfold positionalText
  simp only
  split
  · have plain : IsPlain
        (Nat.toDigits 10 decimal.digits ++ List.replicate decimal.exponent.toNat '0') :=
      isPlain_of_digits (List.append_ne_nil_of_left_ne_nil Nat.toDigits_ne_nil _)
        (List.forall_mem_append.2 ⟨digits, isDigit_of_mem_zeros⟩)
    rcases whole with rfl | rfl
    · rwa [List.append_nil]
    · exact plain.point isDigit_zero
  · split
    · rename_i small above
      have place : decimal.magnitude.toNat ≠ 0 := by omega
      have front : IsPlain ((Nat.toDigits 10 decimal.digits).take decimal.magnitude.toNat) :=
        isPlain_of_digits (by simp [place])
          fun character member => digits character (List.mem_of_mem_take member)
      exact front.point fun character member =>
        digits character (List.mem_of_mem_drop member)
    · have zero : IsPlain ['0'] := isPlain_of_digits (List.cons_ne_nil _ _) isDigit_zero
      exact zero.point (List.forall_mem_append.2 ⟨isDigit_of_mem_zeros, digits⟩)

/-- A number that is written with an exponent is a plain text, the exponent mark, a sign and
digits. -/
theorem exists_isPlain_scientificText (plusSign : List Char) (decimal : Decimal) :
    ∃ mantissa, IsPlain mantissa ∧
      scientificText plusSign decimal =
        mantissa ++ 'e' :: ((if decimal.magnitude - 1 < 0 then ['-'] else plusSign) ++
          Nat.toDigits 10 (decimal.magnitude - 1).natAbs) := by
  have digits : ∀ character ∈ Nat.toDigits 10 decimal.digits, character.isDigit :=
    isDigit_of_mem_toDigits
  unfold scientificText
  simp only
  refine ⟨_, ?_, rfl⟩
  cases layout : Nat.toDigits 10 decimal.digits with
  | nil => exact absurd layout Nat.toDigits_ne_nil
  | cons first rest =>
    rw [layout] at digits
    obtain ⟨digit, others⟩ := List.forall_mem_cons.1 digits
    have single : IsPlain [first] :=
      isPlain_of_digits (List.cons_ne_nil _ _) (List.forall_mem_singleton.2 digit)
    cases rest with
    | nil => exact single
    | cons second more => exact single.point others

/-- A plain text with a power of ten after it is a numeral. -/
theorem IsPlain.scaling (plain : IsPlain text) {sign digits : List Char}
    (signed : sign = [] ∨ sign = ['+'] ∨ sign = ['-']) (digital : IsPlain digits) :
    IsNumeral (text ++ 'e' :: (sign ++ digits)) := by
  obtain ⟨first, more, rfl, digit, others⟩ := plain
  obtain ⟨first', more', rfl, digit', others'⟩ := digital
  have whole : ∀ character ∈ first' :: more', character.isDigit || character == '.' :=
    List.forall_mem_cons.2 ⟨by rw [digit', Bool.true_or], others'⟩
  refine ⟨first, more ++ 'e' :: (sign ++ first' :: more'), rfl, digit, fun rest boundary => ?_⟩
  rw [List.append_assoc, numeralRun_plain others,
    numeralRun_scaling signed (List.cons_ne_nil _ _) whole boundary]

/-- A number that is written with an exponent is a numeral. -/
theorem isNumeral_scientificText {plusSign : List Char}
    (plus : plusSign = [] ∨ plusSign = ['+']) (decimal : Decimal) :
    IsNumeral (scientificText plusSign decimal) := by
  have power : IsPlain (Nat.toDigits 10 (decimal.magnitude - 1).natAbs) :=
    isPlain_of_digits Nat.toDigits_ne_nil isDigit_of_mem_toDigits
  have signed : (if decimal.magnitude - 1 < 0 then ['-'] else plusSign) = [] ∨
      (if decimal.magnitude - 1 < 0 then ['-'] else plusSign) = ['+'] ∨
      (if decimal.magnitude - 1 < 0 then ['-'] else plusSign) = ['-'] := by
    split
    · exact .inr (.inr rfl)
    · exact plus.imp_right .inl
  obtain ⟨mantissa, plain, layout⟩ := exists_isPlain_scientificText plusSign decimal
  exact layout ▸ plain.scaling signed power

/-- The digits of a finite double in any readable layout are the number token of that
double. -/
theorem spells_shortest {style : Style} (readable : style.Readable) {bits : Nat}
    (finite : bits < infinityBits) :
    Spells (style.decimalText (shortest style.tie bits)) [.number (ofSignBits false bits)] := by
  obtain ⟨read, found, value⟩ := readable.readDecimal?_shortest finite false
  have numeral : IsNumeral (style.decimalText (shortest style.tie bits)) := by
    unfold Style.decimalText
    split
    · exact (isPlain_positionalText readable.wholeSuffix _).isNumeral
    · exact isNumeral_scientificText readable.plusSign _
  rw [← value]
  exact spells_numeral numeral found

end Numerals

end KalmanHeader.Token
