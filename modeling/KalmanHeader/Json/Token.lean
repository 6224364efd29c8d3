import KalmanHeader.Json.Numeral

/-!
# Tokens of JSON text

JSON text is read as brackets, commas, colons and scalar values. The token list
ends with a broken value at the first place that is none of these: an unfinished
or malformed string, a numeral with a superfluous zero or too large for a
double, or any other character.
-/

namespace KalmanHeader.Json

/-- A token of JSON text. -/
inductive Token where
  | openBracket
  | closeBracket
  | openBrace
  | closeBrace
  | comma
  | colon
  | scalar (value : Json)
  deriving Repr

namespace Token

/-- The value of a hexadecimal digit. -/
def hexDigit? (character : Char) : Option Nat :=
  if character.isDigit then some (character.toNat - '0'.toNat)
  else if 'a' ≤ character ∧ character ≤ 'f' then some (character.toNat - 'a'.toNat + 10)
  else if 'A' ≤ character ∧ character ≤ 'F' then some (character.toNat - 'A'.toNat + 10)
  else none

/-- The value of four hexadecimal digits, and the text after them. -/
def hexUnit? : List Char → Option (Nat × List Char)
  | first :: second :: third :: fourth :: rest => do
    let high ← hexDigit? first
    let upper ← hexDigit? second
    let lower ← hexDigit? third
    let low ← hexDigit? fourth
    return (((high * 16 + upper) * 16 + lower) * 16 + low, rest)
  | _ => none

/-- The character that a `u` escape stands for, from after the `u`, and the text
after the escape. A character beyond U+FFFF is written as two units, and neither
of them may stand alone. -/
def unicodeEscape? (text : List Char) : Option (Char × List Char) :=
  match hexUnit? text with
  | none => none
  | some (unit, rest) =>
    if 0xD800 ≤ unit ∧ unit < 0xDC00 then
      match rest with
      | '\\' :: 'u' :: rest' =>
        match hexUnit? rest' with
        | none => none
        | some (unit', rest'') =>
          if 0xDC00 ≤ unit' ∧ unit' < 0xE000 then
            some (Char.ofNat (0x10000 + (unit - 0xD800) * 0x400 + (unit' - 0xDC00)), rest'')
          else none
      | _ => none
    else if 0xDC00 ≤ unit ∧ unit < 0xE000 then none
    else some (Char.ofNat unit, rest)

/-- The character that an escape stands for, from after the backslash, and the
text after the escape. -/
def escape? : List Char → Option (Char × List Char)
  | '"' :: rest => some ('"', rest)
  | '\\' :: rest => some ('\\', rest)
  | '/' :: rest => some ('/', rest)
  | 'b' :: rest => some ('\x08', rest)
  | 'f' :: rest => some ('\x0c', rest)
  | 'n' :: rest => some ('\n', rest)
  | 'r' :: rest => some ('\r', rest)
  | 't' :: rest => some ('\t', rest)
  | 'u' :: rest => unicodeEscape? rest
  | _ => none

/-- Four digits are used up. -/
theorem length_of_hexUnit? {text rest : List Char} {unit : Nat}
    (read : hexUnit? text = some (unit, rest)) : rest.length < text.length := by
  unfold hexUnit? at read
  split at read
  · simp only [Option.bind_eq_bind, Option.bind_eq_some_iff, Option.pure_def, Option.some.injEq,
      Prod.mk.injEq] at read
    obtain ⟨_, _, _, _, _, _, _, _, _, rfl⟩ := read
    simp only [List.length_cons]
    omega
  · simp at read

/-- A `u` escape is used up. -/
theorem length_of_unicodeEscape? {text rest : List Char} {character : Char}
    (read : unicodeEscape? text = some (character, rest)) : rest.length < text.length := by
  unfold unicodeEscape? at read
  split at read
  · simp at read
  · rename_i unit rest' first
    have shorter := length_of_hexUnit? first
    split at read
    · split at read
      · split at read
        · simp at read
        · rename_i second
          have shorter' := length_of_hexUnit? second
          split at read
          · simp only [Option.some.injEq, Prod.mk.injEq] at read
            simp only [List.length_cons] at shorter
            obtain ⟨_, rfl⟩ := read
            omega
          · simp at read
      · simp at read
    · split at read
      · simp at read
      · simp only [Option.some.injEq, Prod.mk.injEq] at read
        obtain ⟨_, rfl⟩ := read
        exact shorter

/-- An escape is used up. -/
theorem length_of_escape? {text rest : List Char} {character : Char}
    (read : escape? text = some (character, rest)) : rest.length < text.length := by
  unfold escape? at read
  split at read
  case h_9 => exact Nat.lt_succ_of_lt (length_of_unicodeEscape? read)
  all_goals simp_all

/-- The characters of a string, from after the opening quote, and the text after
the closing one. -/
def readString? (text : List Char) : Option (List Char × List Char) :=
  match text with
  | [] => none
  | '"' :: rest => some ([], rest)
  | '\\' :: rest =>
    match _read : escape? rest with
    | none => none
    | some (character, rest') =>
      (readString? rest').map fun read => (character :: read.1, read.2)
  | character :: rest =>
    if character.toNat < 0x20 then none
    else (readString? rest).map fun read => (character :: read.1, read.2)
termination_by text.length
decreasing_by
  · have := length_of_escape? _read
    simp only [List.length_cons]
    omega
  · simp

/-- The text after a string is no longer than the text of it. -/
theorem length_of_readString? {text characters rest : List Char}
    (read : readString? text = some (characters, rest)) : rest.length < text.length := by
  fun_induction readString? text generalizing characters with
  | case1 => simp at read
  | case2 rest' =>
    simp only [Option.some.injEq, Prod.mk.injEq] at read
    obtain ⟨_, rfl⟩ := read
    simp
  | case3 => simp at read
  | case4 tail character tail' escaped ih =>
    obtain ⟨⟨inner, after⟩, found, equal⟩ := Option.map_eq_some_iff.1 read
    simp only [Prod.mk.injEq] at equal
    obtain ⟨_, rfl⟩ := equal
    have := ih found
    have := length_of_escape? escaped
    simp only [List.length_cons]
    omega
  | case5 => simp at read
  | case6 character tail _ _ _ ih =>
    obtain ⟨⟨inner, after⟩, found, equal⟩ := Option.map_eq_some_iff.1 read
    simp only [Prod.mk.injEq] at equal
    obtain ⟨_, rfl⟩ := equal
    have := ih found
    simp only [List.length_cons]
    omega

/-- The blanks of JSON. -/
def isBlank (character : Char) : Bool :=
  character == ' ' || character == '\t' || character == '\n' || character == '\r'

/-- The tokens of a JSON text, up to the first place that is no token. -/
def ofText (text : List Char) : List Token :=
  match text with
  | [] => []
  | '[' :: rest => .openBracket :: ofText rest
  | ']' :: rest => .closeBracket :: ofText rest
  | '\x7b' :: rest => .openBrace :: ofText rest
  | '\x7d' :: rest => .closeBrace :: ofText rest
  | ',' :: rest => .comma :: ofText rest
  | ':' :: rest => .colon :: ofText rest
  | 'n' :: 'u' :: 'l' :: 'l' :: rest => .scalar .null :: ofText rest
  | 't' :: 'r' :: 'u' :: 'e' :: rest => .scalar (.bool true) :: ofText rest
  | 'f' :: 'a' :: 'l' :: 's' :: 'e' :: rest => .scalar (.bool false) :: ofText rest
  | '"' :: rest =>
    match _read : readString? rest with
    | none => [.scalar .broken]
    | some (characters, rest') => .scalar (.string (String.ofList characters)) :: ofText rest'
  | '-' :: rest =>
    match (readNumeral true rest).1 with
    | .broken => [.scalar .broken]
    | value => .scalar value :: ofText (readNumeral true rest).2
  | character :: rest =>
    if isBlank character then ofText rest
    else if _digit : character.isDigit then
      match (readNumeral false (character :: rest)).1 with
      | .broken => [.scalar .broken]
      | value => .scalar value :: ofText (readNumeral false (character :: rest)).2
    else [.scalar .broken]
termination_by text.length
decreasing_by
  all_goals first
    | exact length_readNumeral_lt false rest _digit
    | exact Nat.lt_succ_of_le (length_readNumeral_le true rest)
    | exact Nat.lt_succ_of_lt (length_of_readString? _read)
    | (simp only [List.length_cons]; omega)

end Token

end KalmanHeader.Json
