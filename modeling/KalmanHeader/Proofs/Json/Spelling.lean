import KalmanHeader.Json.Codec
import KalmanHeader.Proofs.Json.Numeral

/-!
# Tokens of written text

What is written for a blank, a string or a double is read as the token of it, whatever text
comes after; only a double needs the text after it not to go on with digits. A string
always gives back its characters. A double need not give itself back, since reading scales
it in double arithmetic, so that it does is a property of the double.
-/

namespace KalmanHeader.Json

namespace Token

/-- The tokens of a text that begins with a numeral. -/
def ofNumeral (value : Json) (rest : List Char) : List Token :=
  match value with
  | .broken => [.scalar .broken]
  | value => .scalar value :: ofText rest

/-- A text that begins with a digit begins with a numeral. -/
theorem ofText_digit {first : Char} (others : List Char) (digit : first.isDigit) :
    ofText (first :: others) =
      ofNumeral (readNumeral false (first :: others)).1
        (readNumeral false (first :: others)).2 := by
  have other : ∀ character, ¬character.isDigit → first = character → False := by
    rintro _ no rfl
    exact no digit
  have blank : isBlank first = false := by
    simp only [isBlank, Bool.or_eq_false_iff, beq_eq_false_iff_ne]
    refine ⟨⟨⟨?_, ?_⟩, ?_⟩, ?_⟩ <;> exact other _ (by decide)
  rw [ofText]
  · rw [blank]
    simp only [Bool.false_eq_true, ↓reduceIte, digit, ↓reduceDIte]
    unfold ofNumeral
    cases (readNumeral false (first :: others)).1 <;> rfl
  all_goals first
    | (refine other _ ?_; decide)
    | (refine fun _ same _ => other _ ?_ same; decide)

/-- A text that begins with a minus sign begins with a numeral. -/
theorem ofText_minus (rest : List Char) :
    ofText ('-' :: rest) = ofNumeral (readNumeral true rest).1 (readNumeral true rest).2 := by
  rw [ofText]
  unfold ofNumeral
  generalize (readNumeral true rest).1 = value
  cases value <;> rfl

/-- A blank is no token. -/
theorem ofText_blank {first : Char} (others : List Char) (blank : isBlank first) :
    ofText (first :: others) = ofText others := by
  simp only [isBlank, Bool.or_eq_true, beq_iff_eq] at blank
  rcases blank with ((rfl | rfl) | rfl) | rfl <;> simp [ofText, isBlank]

/-- Blanks are no tokens. -/
theorem ofText_blanks {blanks : List Char} (blank : ∀ character ∈ blanks, isBlank character)
    (rest : List Char) : ofText (blanks ++ rest) = ofText rest := by
  induction blanks with
  | nil => rfl
  | cons first others ih =>
    obtain ⟨blankFirst, blankOthers⟩ := List.forall_mem_cons.1 blank
    rw [List.cons_append, ofText_blank _ blankFirst, ih blankOthers]

/-- A hexadecimal digit has its value. -/
theorem hexDigit?_digitChar : ∀ digit < 16, hexDigit? (Nat.digitChar digit) = some digit := by
  decide

/-- A control character is read from its code. -/
theorem unicodeEscape?_of_lt {character : Char} (control : character.toNat < 0x20)
    (rest : List Char) :
    unicodeEscape? ('0' :: '0' :: Nat.digitChar (character.toNat / 16) ::
      Nat.digitChar (character.toNat % 16) :: rest) = some (character, rest) := by
  have high := hexDigit?_digitChar (character.toNat / 16) (by omega)
  have low := hexDigit?_digitChar (character.toNat % 16) (by omega)
  have zero : hexDigit? '0' = some 0 := by decide
  have code : character.toNat / 16 * 16 + character.toNat % 16 = character.toNat := by omega
  have notHigh : ¬(0xD800 ≤ character.toNat ∧ character.toNat < 0xDC00) := by omega
  have notLow : ¬(0xDC00 ≤ character.toNat ∧ character.toNat < 0xE000) := by omega
  simp [unicodeEscape?, hexUnit?, high, low, zero, code, notHigh, notLow]

/-- A character stands for itself in a string, or is written as an escape. -/
theorem escaped_cases (character : Char) :
    (escaped character = [character] ∧ character ≠ '"' ∧ character ≠ '\\' ∧
        ¬character.toNat < 0x20) ∨
      ∃ code, escaped character = '\\' :: code ∧
        ∀ rest, escape? (code ++ rest) = some (character, rest) := by
  unfold escaped
  iterate 7
    split
    · rename_i same
      subst same
      exact .inr ⟨_, rfl, fun _ => rfl⟩
  rename_i quote backslash _ _ _ _ _
  split
  · rename_i control
    exact .inr ⟨_, rfl, unicodeEscape?_of_lt control⟩
  · rename_i printable
    exact .inl ⟨rfl, quote, backslash, printable⟩

/-- An escape in a string is read as its character. -/
theorem readString?_escape {text rest : List Char} {character : Char}
    (escape : escape? text = some (character, rest)) :
    readString? ('\\' :: text) =
      (readString? rest).map fun read => (character :: read.1, read.2) := by
  rw [readString?]
  split
  · rename_i none
    cases none.symm.trans escape
  · rename_i some
    cases some.symm.trans escape
    rfl

/-- A character of a string is read back. -/
theorem readString?_escaped (character : Char) (rest : List Char) :
    readString? (escaped character ++ rest) =
      (readString? rest).map fun read => (character :: read.1, read.2) := by
  rcases escaped_cases character with ⟨text, quote, backslash, printable⟩ | ⟨code, text, escape⟩
  · rw [text, List.singleton_append, readString?, if_neg printable]
    · exact quote
    · exact backslash
  · rw [text, List.cons_append, readString?_escape (escape rest)]

/-- A string is read back. -/
theorem readString?_text (characters rest : List Char) :
    readString? (characters.flatMap escaped ++ '"' :: rest) = some (characters, rest) := by
  induction characters with
  | nil => rw [List.flatMap_nil, List.nil_append, readString?]
  | cons first others ih =>
    rw [List.flatMap_cons, List.append_assoc, readString?_escaped, ih, Option.map_some]

/-- A text that begins with a string. -/
theorem ofText_string (value : String) (rest : List Char) :
    ofText ((stringText value).toList ++ rest) = .scalar (.string value) :: ofText rest := by
  have text : (stringText value).toList ++ rest =
      '"' :: (value.toList.flatMap escaped ++ '"' :: rest) := by
    simp [stringText]
  rw [text, ofText]
  split
  · rename_i none
    cases none.symm.trans (readString?_text value.toList rest)
  · rename_i some
    cases some.symm.trans (readString?_text value.toList rest)
    rw [String.ofList_toList]

/-- A text that begins with a numeral, which ends where the text goes on. -/
theorem ofText_numeral {numeral : Numeral} {rest : List Char} (spelled : numeral.IsSpelled)
    (ends : EndsNumeral rest) :
    ofText (numeral.signed ++ rest) = ofNumeral numeral.value rest := by
  have read := Numeral.readNumeral_characters spelled ends
  unfold Numeral.signed
  cases sign : numeral.negative with
  | true =>
    rw [sign] at read
    rw [if_pos rfl, List.append_assoc, List.singleton_append, ofText_minus, read]
  | false =>
    obtain ⟨first, others, text, digit⟩ := Numeral.exists_digit spelled
    rw [sign, text, List.cons_append] at read
    rw [if_neg Bool.false_ne_true, List.nil_append, text, List.cons_append,
      ofText_digit _ digit, read]

end Token

/-- Whether a double is read back from its own text. -/
def Rereads (value : Float) : Prop :=
  Codec.number.readText (Json.float value).pretty = .ok value

instance (value : Float) : Decidable (Rereads value) :=
  match read : Codec.number.readText (Json.float value).pretty with
  | .error _ => .isFalse fun rereads => nomatch read.symm.trans rereads
  | .ok found =>
    if same : found = value then .isTrue (read.trans (congrArg _ same))
    else .isFalse fun rereads => same (Except.ok.inj (read.symm.trans rereads))

section Doubles

variable {value : Float} {rest : List Char}

/-- Without digits a double is written as `null`. -/
theorem text_of_not_finite (digitless : value.isNaN ∨ value.isInf) :
    numberStyle.characters value = ['n', 'u', 'l', 'l'] := by
  unfold Number.Style.characters
  split
  · rfl
  · split
    · exact ite_self _
    · simp_all

/-- A scalar value is read as it is. -/
theorem readValue_scalar {depth : Nat} {found : Json} {rest : List Token}
    (intact : found ≠ .broken) :
    readValue depth (.scalar found :: rest) = .ofToken found rest := by
  rw [readValue]
  exact intact

/-- The value of a document with a single token. -/
theorem value_ofText {text : String} {found : Json}
    (token : Token.ofText text.toList = [.scalar found]) :
    (Document.ofText text).value = found := by
  change (readValue nestingLimit (Token.ofText text.toList)).result = found
  rw [token]
  by_cases broken : found = .broken
  · rw [broken, readValue]
    rfl
  · rw [readValue_scalar broken]
    rfl

/-- What a text is read as is what its value is read as. -/
theorem Codec.read_of_readText {α : Type} {codec : Codec α} {text : String} {result : α}
    (read : codec.readText text = .ok result) :
    codec.read (Document.ofText text).value = .ok result := by
  unfold readText readDocument at read
  split at read
  · cases read
  · rename_i found
    split at read
    · rw [found, read]
    · cases read

/-- A text goes on with a numeral only if there is more of it. -/
theorem endsNumeral_nil : EndsNumeral [] := by
  rintro _ ⟨⟩

/-- A double that is read back is written as a numeral of that double. -/
theorem Rereads.exists_numeral (rereads : Rereads value) :
    ∃ numeral : Numeral, numeral.IsSpelled ∧ numberStyle.characters value = numeral.signed ∧
      numeral.value = .float value := by
  have read : ∀ found, Token.ofText (numberStyle.characters value) = [.scalar found] →
      Codec.number.read found = .ok value := by
    intro found token
    have tokens : Token.ofText (numberStyle.text value).toList = [.scalar found] := by
      rw [Number.Style.text, String.toList_ofList, token]
    have document := value_ofText tokens
    exact document ▸ Codec.read_of_readText rereads
  by_cases digitless : value.isNaN ∨ value.isInf
  · have none := read .null (by rw [text_of_not_finite digitless, Token.ofText, Token.ofText])
    cases none
  · rw [not_or, Bool.not_eq_true, Bool.not_eq_true] at digitless
    obtain ⟨numeral, spelled, fractional, text⟩ := Numeral.exists_characters digitless.1 digitless.2
    have tokens := Token.ofText_numeral spelled endsNumeral_nil
    rw [List.append_nil, ← text] at tokens
    refine ⟨numeral, spelled, text, ?_⟩
    rcases Numeral.value_of_isFractional fractional with broken | ⟨double, found⟩
    · rw [broken] at tokens
      cases read .broken tokens
    · rw [found, Token.ofNumeral, Token.ofText] at tokens
      · cases read (.float double) tokens
        exact found
      · simp

/-- A text that begins with a double that is read back. -/
theorem Rereads.ofText (rereads : Rereads value) (ends : EndsNumeral rest) :
    Token.ofText (numberStyle.characters value ++ rest) =
      .scalar (.float value) :: Token.ofText rest := by
  obtain ⟨numeral, spelled, text, found⟩ := rereads.exists_numeral
  rw [text, Token.ofText_numeral spelled ends, found, Token.ofNumeral]
  simp

end Doubles

end KalmanHeader.Json