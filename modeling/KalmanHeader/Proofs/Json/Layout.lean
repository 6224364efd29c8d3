import KalmanHeader.Proofs.Json.Spelling

/-!
# Reading laid out text back

A value that is laid out over several lines is read back as itself, as long as its brackets
are not nested too deep and its numbers are doubles that are read back. Whatever follows the
text of a value is what is left after reading it, so the texts of the items of an array and
of the members of an object are read one after another.
-/

namespace KalmanHeader.Json

namespace Reading

variable {α β : Type} {tokens : List Token}

/-- A reading with the given result, after which the given tokens are left. -/
structure Gives (reading : Reading α tokens) (result : α) (rest : List Token) : Prop where
  result : reading.result = result
  rest : reading.rest = some rest

variable {reading : Reading α tokens} {result : α} {rest : List Token}

/-- A token gives its value. -/
theorem gives_ofToken {token : Token} :
    (ofToken result rest : Reading α (token :: rest)).Gives result rest :=
  ⟨rfl, rfl⟩

/-- A reading gives the same from one token earlier. -/
theorem Gives.afterToken {token : Token} (gives : reading.Gives result rest) :
    (reading.afterToken : Reading α (token :: tokens)).Gives result rest :=
  ⟨gives.result, gives.rest⟩

/-- What is made of a result is given. -/
theorem Gives.map (f : α → β) (gives : reading.Gives result rest) :
    (reading.map f).Gives (f result) rest :=
  ⟨congrArg f gives.result, gives.rest⟩

/-- A reading that goes on gives what comes after it. -/
theorem Gives.andThen {stopped : α → β}
    {next : α → (rest : List Token) → rest.length < tokens.length → Reading β rest}
    {result' : β} {rest' : List Token} (gives : reading.Gives result rest)
    (further : ∀ shorter, (next result rest shorter).Gives result' rest') :
    (reading.andThen stopped next).Gives result' rest' := by
  obtain ⟨rfl, found⟩ := gives
  unfold Reading.andThen
  split
  · rename_i none
    cases none.symm.trans found
  · rename_i some
    cases some.symm.trans found
    exact ⟨(further _).result, (further _).rest⟩

end Reading

/-- Whether a value can be read back with at most `depth` levels of brackets: it is complete,
and its numbers are doubles that are read back. -/
def IsReadable : Nat → Json → Prop
  | _, .null | _, .bool _ | _, .string _ => True
  | _, .float value => Rereads value
  | depth + 1, .array items closed => closed = true ∧ ∀ item ∈ items, IsReadable depth item
  | depth + 1, .object members stray =>
    stray = none ∧ ∀ member ∈ members, IsReadable depth member.2
  | _, _ => False

/-- Whether a text is read as a value, whatever comes after it. -/
def IsReadAs (depth : Nat) (text : String) (value : Json) : Prop :=
  ∀ rest, EndsNumeral rest →
    (readValue depth (Token.ofText (text.toList ++ rest))).Gives value (Token.ofText rest)

section Brackets

variable {depth : Nat} {tokens rest : List Token}

/-- An array does not begin with its closing bracket. -/
theorem rest_readItems_closeBracket :
    (readItems depth (.closeBracket :: tokens)).rest = none := by
  rw [readItems, readValue]
  · rfl
  all_goals simp

/-- An object does not begin with its closing brace. -/
theorem rest_readMembers_closeBrace :
    (readMembers depth (.closeBrace :: tokens)).rest = none := by
  rw [readMembers]
  · rfl
  all_goals simp

/-- An array is read by its items. -/
theorem readValue_items {items : List Json}
    (read : (readItems depth tokens).Gives (items, true) rest) :
    (readValue (depth + 1) (.openBracket :: tokens)).Gives (.list items) rest := by
  rw [readValue]
  · exact (read.map _).afterToken
  · rintro others rfl
    cases rest_readItems_closeBracket.symm.trans read.rest

/-- An object is read by its members. -/
theorem readValue_members {members : List (String × Json)}
    (read : (readMembers depth tokens).Gives (members, none) rest) :
    (readValue (depth + 1) (.openBrace :: tokens)).Gives (.record members) rest := by
  rw [readValue]
  · exact (read.map _).afterToken
  · rintro others rfl
    cases rest_readMembers_closeBrace.symm.trans read.rest

variable {value : Json} {further : List Token}

/-- An item before the closing bracket is the last one. -/
theorem readItems_last (read : (readValue depth tokens).Gives value (.closeBracket :: rest)) :
    (readItems depth tokens).Gives ([value], true) rest := by
  rw [readItems]
  exact read.andThen fun _ => Reading.gives_ofToken

/-- An item before a comma comes before the others. -/
theorem readItems_more {items : List Json}
    (read : (readValue depth tokens).Gives value (.comma :: further))
    (more : (readItems depth further).Gives (items, true) rest) :
    (readItems depth tokens).Gives (value :: items, true) rest := by
  rw [readItems]
  exact read.andThen fun _ => (more.map _).afterToken

/-- A member before the closing brace is the last one. -/
theorem readMembers_last {key : String}
    (read : (readValue depth tokens).Gives value (.closeBrace :: rest)) :
    (readMembers depth (.scalar (.string key) :: .colon :: tokens)).Gives ([(key, value)], none)
      rest := by
  rw [readMembers]
  exact (read.andThen fun _ => Reading.gives_ofToken).afterToken.afterToken

/-- A member before a comma comes before the others. -/
theorem readMembers_more {key : String} {members : List (String × Json)}
    (read : (readValue depth tokens).Gives value (.comma :: further))
    (more : (readMembers depth further).Gives (members, none) rest) :
    (readMembers depth (.scalar (.string key) :: .colon :: tokens)).Gives
      ((key, value) :: members, none) rest := by
  rw [readMembers]
  exact (read.andThen fun _ => (more.map _).afterToken).afterToken.afterToken

end Brackets

section Lines

variable {depth : Nat} {separator : String} {blanks closing : List Char}

/-- What follows the first of several lines. -/
theorem toList_lines (comma : separator.toList = ',' :: blanks) (first second : String)
    (others : List String) (rest : List Char) :
    (separator.intercalate (first :: second :: others)).toList ++ rest =
      first.toList ++ ',' ::
        (blanks ++ ((separator.intercalate (second :: others)).toList ++ rest)) := by
  rw [String.intercalate_cons_cons, String.toList_append, String.toList_append, comma,
    List.append_assoc, List.append_assoc, List.cons_append]

/-- Items on lines of their own are read one after another. -/
theorem readItems_lines (comma : separator.toList = ',' :: blanks)
    (blank : ∀ character ∈ blanks, Token.isBlank character)
    (line : ∀ character ∈ closing, Token.isBlank character) {text : Json → String} {first : Json}
    {others : List Json} (each : ∀ item ∈ first :: others, IsReadAs depth (text item) item)
    (rest : List Char) :
    (readItems depth (Token.ofText ((separator.intercalate ((first :: others).map text)).toList ++
      '\n' :: (closing ++ ']' :: rest)))).Gives (first :: others, true) (Token.ofText rest) := by
  induction others generalizing first with
  | nil =>
    have read := each first List.mem_cons_self ('\n' :: (closing ++ ']' :: rest))
      (endsNumeral_cons (by decide))
    rw [Token.ofText_blank _ (by decide), Token.ofText_blanks line, Token.ofText] at read
    exact readItems_last read
  | cons second further ih =>
    obtain ⟨head, tail⟩ := List.forall_mem_cons.1 each
    have more := ih tail
    rw [List.map_cons] at more
    rw [List.map_cons, List.map_cons, toList_lines comma]
    generalize (separator.intercalate (text second :: further.map text)).toList ++
      '\n' :: (closing ++ ']' :: rest) = lines at more ⊢
    have read := head (',' :: (blanks ++ lines)) (endsNumeral_cons (by decide))
    rw [Token.ofText, Token.ofText_blanks blank] at read
    exact readItems_more read more

/-- The tokens of the line of a member. -/
theorem ofText_member (key text : String) (rest : List Char) :
    Token.ofText ((stringText key ++ ": " ++ text).toList ++ rest) =
      .scalar (.string key) :: .colon :: Token.ofText (text.toList ++ rest) := by
  rw [String.toList_append, String.toList_append, List.append_assoc, List.append_assoc,
    Token.ofText_string]
  change _ :: Token.ofText (':' :: ' ' :: (text.toList ++ rest)) = _
  rw [Token.ofText, Token.ofText_blank _ (by decide)]

/-- Members on lines of their own are read one after another. -/
theorem readMembers_lines (comma : separator.toList = ',' :: blanks)
    (blank : ∀ character ∈ blanks, Token.isBlank character)
    (line : ∀ character ∈ closing, Token.isBlank character) {text : Json → String}
    {first : String × Json} {others : List (String × Json)}
    (each : ∀ member ∈ first :: others, IsReadAs depth (text member.2) member.2)
    (rest : List Char) :
    (readMembers depth (Token.ofText ((separator.intercalate ((first :: others).map fun member =>
      stringText member.1 ++ ": " ++ text member.2)).toList ++
        '\n' :: (closing ++ '\x7d' :: rest)))).Gives (first :: others, none)
          (Token.ofText rest) := by
  induction others generalizing first with
  | nil =>
    have read := each first List.mem_cons_self ('\n' :: (closing ++ '\x7d' :: rest))
      (endsNumeral_cons (by decide))
    rw [Token.ofText_blank _ (by decide), Token.ofText_blanks line, Token.ofText] at read
    rw [List.map_singleton, String.intercalate_singleton, ofText_member]
    exact readMembers_last read
  | cons second further ih =>
    obtain ⟨head, tail⟩ := List.forall_mem_cons.1 each
    have more := ih tail
    rw [List.map_cons] at more
    rw [List.map_cons, List.map_cons, toList_lines comma, ofText_member]
    generalize (separator.intercalate ((stringText second.1 ++ ": " ++ text second.2) ::
      further.map fun member => stringText member.1 ++ ": " ++ text member.2)).toList ++
        '\n' :: (closing ++ '\x7d' :: rest) = lines at more ⊢
    have read := head (',' :: (blanks ++ lines)) (endsNumeral_cons (by decide))
    rw [Token.ofText, Token.ofText_blanks blank] at read
    exact readMembers_more read more

end Lines

section Values

variable {depth : Nat} {indentation : String}

/-- The texts of items one by one. -/
theorem indentedItems_eq_map (items : List Json) :
    indentedItems indentation items = items.map (indented indentation) := by
  induction items with
  | nil => rfl
  | cons first others ih => rw [indentedItems, ih, List.map_cons]

/-- The texts of members one by one. -/
theorem indentedMembers_eq_map (members : List (String × Json)) :
    indentedMembers indentation members =
      members.map fun member => stringText member.1 ++ ": " ++ member.2.indented indentation := by
  induction members with
  | nil => rfl
  | cons first others ih => rw [indentedMembers, ih, List.map_cons]

/-- The characters of text between brackets. -/
theorem toList_bracketed {lines : List String} (present : lines ≠ []) (opening closing : String)
    (rest : List Char) :
    (bracketed opening closing indentation lines).toList ++ rest =
      opening.toList ++ '\n' :: (indentation.toList ++ ' ' :: ' ' ::
        (((",\n" ++ indentation ++ "  ").intercalate lines).toList ++
          '\n' :: (indentation.toList ++ (closing.toList ++ rest)))) := by
  obtain ⟨first, others, rfl⟩ := List.exists_cons_of_ne_nil present
  simp [bracketed]

/-- A text with one token is read as the value of it. -/
theorem isReadAs_scalar {text : String} {value : Json} (intact : value ≠ .broken)
    (token : ∀ rest, EndsNumeral rest →
      Token.ofText (text.toList ++ rest) = .scalar value :: Token.ofText rest) :
    IsReadAs depth text value := by
  intro rest ends
  rw [token rest ends, readValue_scalar intact]
  exact Reading.gives_ofToken

/-- A deeper indentation is blank. -/
theorem blank_deeper (blank : ∀ character ∈ indentation.toList, Token.isBlank character) :
    ∀ character ∈ (indentation ++ "  ").toList, Token.isBlank character := by
  rw [String.toList_append]
  exact List.forall_mem_append.2 ⟨blank, by simp [Token.isBlank]⟩

/-- The separator of lines is a comma and blanks. -/
theorem toList_separator :
    (",\n" ++ indentation ++ "  ").toList = ',' :: '\n' :: (indentation ++ "  ").toList := by
  simp

/-- A new line and its indentation are no tokens. -/
theorem ofText_indentation (blank : ∀ character ∈ indentation.toList, Token.isBlank character)
    (rest : List Char) :
    Token.ofText ('\n' :: (indentation.toList ++ ' ' :: ' ' :: rest)) = Token.ofText rest := by
  rw [Token.ofText_blank _ (by decide), Token.ofText_blanks blank,
    Token.ofText_blank _ (by decide), Token.ofText_blank _ (by decide)]

/-- An array on several lines is read as the array of its items. -/
theorem isReadAs_list {items : List Json}
    (blank : ∀ character ∈ indentation.toList, Token.isBlank character)
    (each : ∀ item ∈ items, IsReadAs depth (item.indented (indentation ++ "  ")) item) :
    IsReadAs (depth + 1) ((Json.list items).indented indentation) (.list items) := by
  intro rest _
  rw [Json.list, indented, indentedItems_eq_map]
  cases items with
  | nil =>
    have text : (bracketed "[" "]" indentation []).toList ++ rest = '[' :: ']' :: rest := by
      simp [bracketed]
    rw [List.map_nil, text, Token.ofText, Token.ofText, readValue]
    exact Reading.gives_ofToken.afterToken
  | cons first others =>
    have blanks : ∀ character ∈ '\n' :: (indentation ++ "  ").toList, Token.isBlank character :=
      List.forall_mem_cons.2 ⟨by decide, blank_deeper blank⟩
    rw [toList_bracketed (mt List.map_eq_nil_iff.1 (List.cons_ne_nil first others))]
    change (readValue _ (Token.ofText ('[' :: '\n' :: _))).Gives _ _
    rw [Token.ofText, ofText_indentation blank]
    exact readValue_items (readItems_lines toList_separator blanks blank each rest)

/-- An object on several lines is read as the object of its members. -/
theorem isReadAs_record {members : List (String × Json)}
    (blank : ∀ character ∈ indentation.toList, Token.isBlank character)
    (each : ∀ member ∈ members,
      IsReadAs depth (member.2.indented (indentation ++ "  ")) member.2) :
    IsReadAs (depth + 1) ((Json.record members).indented indentation) (.record members) := by
  intro rest _
  rw [Json.record, indented, indentedMembers_eq_map]
  cases members with
  | nil =>
    have text : (bracketed "\x7b" "\x7d" indentation []).toList ++ rest =
        '\x7b' :: '\x7d' :: rest := by
      simp [bracketed]
    rw [List.map_nil, text, Token.ofText, Token.ofText, readValue]
    exact Reading.gives_ofToken.afterToken
  | cons first others =>
    have blanks : ∀ character ∈ '\n' :: (indentation ++ "  ").toList, Token.isBlank character :=
      List.forall_mem_cons.2 ⟨by decide, blank_deeper blank⟩
    rw [toList_bracketed (mt List.map_eq_nil_iff.1 (List.cons_ne_nil first others))]
    change (readValue _ (Token.ofText ('\x7b' :: '\n' :: _))).Gives _ _
    rw [Token.ofText, ofText_indentation blank]
    exact readValue_members (readMembers_lines toList_separator blanks blank each rest)

/-- A value that holds no others is read as itself. -/
theorem IsReadable.isReadAs_leaf {value : Json} (readable : IsReadable 0 value) :
    IsReadAs depth (value.indented indentation) value := by
  cases value with
  | null =>
    refine isReadAs_scalar (by simp) fun rest _ => ?_
    have text : (leafText .null).toList ++ rest = 'n' :: 'u' :: 'l' :: 'l' :: rest := by
      simp [leafText]
    rw [indented, text, Token.ofText]
    all_goals simp
  | bool value =>
    refine isReadAs_scalar (by simp) fun rest _ => ?_
    cases value with
    | false =>
      have text : (leafText (.bool false)).toList ++ rest =
          'f' :: 'a' :: 'l' :: 's' :: 'e' :: rest := by
        simp [leafText]
      rw [indented, text, Token.ofText]
      all_goals simp
    | true =>
      have text : (leafText (.bool true)).toList ++ rest = 't' :: 'r' :: 'u' :: 'e' :: rest := by
        simp [leafText]
      rw [indented, text, Token.ofText]
      all_goals simp
  | string value => exact isReadAs_scalar (by simp) fun rest _ => Token.ofText_string value rest
  | float value =>
    refine isReadAs_scalar (by simp) fun rest ends => ?_
    change Token.ofText ((numberStyle.text value).toList ++ rest) = _
    rw [Number.Style.text, String.toList_ofList, Rereads.ofText readable ends]
  | _ => exact readable.elim

/-- A value that is laid out is read as itself. -/
theorem IsReadable.isReadAs {value : Json} (readable : IsReadable depth value)
    (blank : ∀ character ∈ indentation.toList, Token.isBlank character) :
    IsReadAs depth (value.indented indentation) value := by
  induction depth generalizing value indentation with
  | zero => exact readable.isReadAs_leaf
  | succ depth ih =>
    cases value with
    | array items closed =>
      obtain ⟨rfl, each⟩ := readable
      exact isReadAs_list blank fun item member => ih (each item member) (blank_deeper blank)
    | object members stray =>
      obtain ⟨rfl, each⟩ := readable
      exact isReadAs_record blank fun member found => ih (each member found) (blank_deeper blank)
    | _ => exact IsReadable.isReadAs_leaf readable

/-- A value that is written is the document that is read. -/
theorem IsReadable.ofText_pretty {value : Json} (readable : IsReadable nestingLimit value) :
    Document.ofText value.pretty = ⟨value, true⟩ := by
  have blank : ∀ character ∈ "".toList, Token.isBlank character := nofun
  have read := readable.isReadAs blank [] endsNumeral_nil
  rw [List.append_nil, Token.ofText] at read
  rw [Document.ofText, Document.ofTokens, Document.mk.injEq]
  exact ⟨read.result, congrArg (Option.any List.isEmpty) read.rest⟩

/-- Items that are complete one by one are complete. -/
theorem areIntact_of_forall {items : List Json} (each : ∀ item ∈ items, item.isIntact) :
    areIntact items := by
  induction items with
  | nil => rfl
  | cons first others ih =>
    obtain ⟨head, tail⟩ := List.forall_mem_cons.1 each
    rw [areIntact, head, ih tail]
    rfl

/-- Members that are complete one by one are complete. -/
theorem membersAreIntact_of_forall {members : List (String × Json)}
    (each : ∀ member ∈ members, member.2.isIntact) : membersAreIntact members := by
  induction members with
  | nil => rfl
  | cons first others ih =>
    obtain ⟨head, tail⟩ := List.forall_mem_cons.1 each
    rw [membersAreIntact, head, ih tail]
    rfl

/-- What can be read back is complete. -/
theorem IsReadable.isIntact {value : Json} (readable : IsReadable depth value) :
    value.isIntact := by
  induction depth generalizing value with
  | zero =>
    cases value with
    | array | object | broken => exact readable.elim
    | _ => rfl
  | succ depth ih =>
    cases value with
    | array items closed =>
      obtain ⟨rfl, each⟩ := readable
      exact areIntact_of_forall fun item member => ih (each item member)
    | object members stray =>
      obtain ⟨rfl, each⟩ := readable
      exact membersAreIntact_of_forall fun member found => ih (each member found)
    | broken => exact readable.elim
    | _ => rfl

end Values

end KalmanHeader.Json
