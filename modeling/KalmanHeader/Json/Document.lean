import KalmanHeader.Json.Token

/-!
# JSON documents

A document is one JSON value with nothing after it. Reading keeps what it has
when the text breaks off, so a document has a value even if its text is no JSON;
`Json.isIntact` tells the two apart. Brackets may be nested only so deep: an
array or object that is too deep breaks off at its opening bracket.
-/

namespace KalmanHeader.Json

/-- What stands at the start of `tokens`, and the tokens after it unless the
text breaks off in it. -/
structure Reading (α : Type) (tokens : List Token) where
  result : α
  rest : Option (List Token)
  shorter : ∀ after, rest = some after → after.length < tokens.length

namespace Reading

variable {α β : Type} {tokens : List Token}

/-- A reading that breaks off. -/
def brokenOff (result : α) : Reading α tokens :=
  ⟨result, none, nofun⟩

/-- A reading that uses up one token. -/
def ofToken {token : Token} (result : α) (rest : List Token) : Reading α (token :: rest) :=
  ⟨result, some rest, fun _ equal => Option.some.inj equal ▸ Nat.lt_succ_self _⟩

/-- The reading that starts one token earlier. -/
def afterToken {token : Token} (reading : Reading α tokens) : Reading α (token :: tokens) :=
  ⟨reading.result, reading.rest, fun after equal =>
    Nat.lt_succ_of_lt (reading.shorter after equal)⟩

/-- The reading with `f` of its result. -/
def map (f : α → β) (reading : Reading α tokens) : Reading β tokens :=
  ⟨f reading.result, reading.rest, reading.shorter⟩

/-- Goes on with the tokens after a reading. If the text broke off, the result
is `stopped`. -/
def andThen (reading : Reading α tokens) (stopped : α → β)
    (next : α → (rest : List Token) → rest.length < tokens.length → Reading β rest) :
    Reading β tokens :=
  match found : reading.rest with
  | none => .brokenOff (stopped reading.result)
  | some rest =>
    let further := next reading.result rest (reading.shorter rest found)
    ⟨further.result, further.rest, fun after equal =>
      Nat.lt_trans (further.shorter after equal) (reading.shorter rest found)⟩

end Reading

/-- How deep arrays and objects may be nested. -/
def nestingLimit : Nat := 127

/-- What stands in place of a key. Of an array or object only the kind counts. -/
def strayValue : List Token → Json
  | .scalar value :: _ => value
  | .openBracket :: _ => .array [] false
  | .openBrace :: _ => .object [] (some .broken)
  | _ => .broken

mutual

/-- Reads a value with at most `depth` levels of brackets. -/
def readValue (depth : Nat) (tokens : List Token) : Reading Json tokens :=
  match depth, tokens with
  | _, .scalar .broken :: _ => .brokenOff .broken
  | _, .scalar value :: rest => .ofToken value rest
  | 0, .openBracket :: _ => .brokenOff (.array [] false)
  | _ + 1, .openBracket :: .closeBracket :: rest => (Reading.ofToken (.list []) rest).afterToken
  | depth' + 1, .openBracket :: rest =>
    ((readItems depth' rest).map fun read => .array read.1 read.2).afterToken
  | 0, .openBrace :: _ => .brokenOff (.object [] (some .broken))
  | _ + 1, .openBrace :: .closeBrace :: rest => (Reading.ofToken (.record []) rest).afterToken
  | depth' + 1, .openBrace :: rest =>
    ((readMembers depth' rest).map fun read => .object read.1 read.2).afterToken
  | _, _ => .brokenOff .broken
termination_by 2 * tokens.length

/-- Reads the items of an array from its first one on, and whether it is closed
after them. -/
def readItems (depth : Nat) (tokens : List Token) : Reading (List Json × Bool) tokens :=
  (readValue depth tokens).andThen (fun item => ([item], false)) fun item rest _shorter =>
    match rest with
    | .closeBracket :: rest' => .ofToken ([item], true) rest'
    | .comma :: rest' =>
      ((readItems depth rest').map fun read => (item :: read.1, read.2)).afterToken
    | _ => .brokenOff ([item], false)
termination_by 2 * tokens.length + 1
decreasing_by
  · omega
  · simp only [List.length_cons] at _shorter
    omega

/-- Reads the members of an object from its first one on, and what stands in
place of its closing brace. -/
def readMembers (depth : Nat) (tokens : List Token) :
    Reading (List (String × Json) × Option Json) tokens :=
  match tokens with
  | .scalar (.string key) :: .colon :: rest =>
    ((readValue depth rest).andThen (fun value => ([(key, value)], some .broken))
      fun value rest' _shorter =>
        match rest' with
        | .closeBrace :: rest'' => .ofToken ([(key, value)], none) rest''
        | .comma :: rest'' =>
          ((readMembers depth rest'').map fun read => ((key, value) :: read.1, read.2)).afterToken
        | _ => .brokenOff ([(key, value)], some .broken)).afterToken.afterToken
  | .scalar (.string key) :: _ => .brokenOff ([(key, .broken)], some .broken)
  | stray => .brokenOff ([], some (strayValue stray))
termination_by 2 * tokens.length + 1
decreasing_by
  · simp only [List.length_cons]
    omega
  · simp only [List.length_cons] at _shorter ⊢
    omega

end

/-- A text read as JSON: the value that it starts with, and whether nothing
follows that value. -/
structure Document where
  value : Json
  complete : Bool

/-- The document that a list of tokens is. -/
def Document.ofTokens (tokens : List Token) : Document :=
  let reading := readValue nestingLimit tokens
  ⟨reading.result, reading.rest.any List.isEmpty⟩

/-- The document that a text is. -/
def Document.ofText (text : String) : Document :=
  .ofTokens (Token.ofText text.toList)

end KalmanHeader.Json
