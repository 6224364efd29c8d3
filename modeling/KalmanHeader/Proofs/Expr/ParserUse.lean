import KalmanHeader.Proofs.Expr.TokenWalk

/-!
# Using a parser

A parser may be asked for one expression after another, and also again after an error. What
holds of one call, wherever the parser stands, holds of all calls of any such use: the walk
of the call ends, it leads on and not back, and an error is about the place where it ends.
-/

namespace KalmanHeader.Parser

open Grammar

variable {ν : Type}

/-- What a parser may be asked for. -/
inductive Request where
  /-- The next expression. -/
  | next
  /-- An expression that is all that is left. -/
  | whole
  deriving DecidableEq, Repr

/-- A parser stands among tokens when it has read those before its place, and has to read
those behind it. -/
structure StandsIn (tokens : List (Token ν)) (parser : Parser ν) : Prop where
  own : parser.tokens = tokens
  inside : parser.position ≤ tokens.length
  rest : parser.rest = tokens.drop parser.position

/-- A parser stands among its own tokens. -/
theorem standsIn (parser : Parser ν) : parser.StandsIn parser.tokens where
  own := rfl
  inside := Nat.sub_le _ _
  rest := by
    obtain ⟨before, split⟩ := parser.suffix
    rw [position, ← split, List.length_append, Nat.add_sub_cancel, List.drop_left]

/-- The first token that is still to be read is the one at the place of the parser. -/
theorem StandsIn.head?_rest {tokens : List (Token ν)} {parser : Parser ν}
    (stands : parser.StandsIn tokens) : parser.rest.head? = tokens[parser.position]? := by
  rw [stands.rest, List.head?_drop]

/-- The tokens that are still to be read are as many as there are from the place on. -/
theorem StandsIn.length_rest {tokens : List (Token ν)} {parser : Parser ν}
    (stands : parser.StandsIn tokens) :
    parser.rest.length = tokens.length - parser.position := by
  rw [stands.rest, List.length_drop]

/-- No token is left exactly at the end. -/
theorem StandsIn.head?_rest_eq_none_iff {tokens : List (Token ν)} {parser : Parser ν}
    (stands : parser.StandsIn tokens) :
    parser.rest.head? = none ↔ parser.position = tokens.length := by
  have inside := stands.inside
  rw [stands.head?_rest, List.getElem?_eq_none_iff]
  omega

/-- One use of a parser: what it was asked for, the result, and the parser before and after
it. -/
structure Call (ν : Type) where
  request : Request
  before : Parser ν
  result : Except (ExprError ν) (Expr ν)
  after : Parser ν

variable [Scalar ν] {tokens : List (Token ν)}

/-- The walk over tokens that a request asks for. -/
def Request.walk (tokens : List (Token ν)) (fuel : Nat) : Request → TokenWalk ν (Expr ν)
  | .next => TokenWalk.chain tokens fuel .sum
  | .whole => TokenWalk.whole tokens fuel

/-- The result of a request, and the parser after it. -/
def answer (parser : Parser ν) : Request → Except (ExprError ν) (Expr ν) × Parser ν
  | .next => parser.parseExpr
  | .whole => parser.parseComplete

/-- The call that a request to a parser is. -/
def call (parser : Parser ν) (request : Request) : Call ν where
  request := request
  before := parser
  result := (parser.answer request).1
  after := (parser.answer request).2

/-- The calls that requests to a parser one after another are, each to the parser as the one
before has left it. -/
def calls (parser : Parser ν) : List Request → List (Call ν)
  | [] => []
  | request :: requests => parser.call request :: (parser.call request).after.calls requests

/-- What has to hold of a call of a parser of `tokens`. -/
structure Call.IsConsistent (tokens : List (Token ν)) (call : Call ν) : Prop where
  before : call.before.StandsIn tokens
  after : call.after.StandsIn tokens
  /-- The walk of the request from where the parser stood has an outcome, with any fuel beyond a
  bound in the number of tokens that are left: it ends where the parser then stands, with the
  result of the call, and never steps back from the first token. -/
  walk : ∀ fuel, 16 * (tokens.length - call.before.position) + 6 < fuel →
    (call.request.walk tokens fuel).run call.before.position =
      some (call.result, call.after.position)
  /-- The parser never stands before where it stood. -/
  forward : call.before.position ≤ call.after.position
  /-- An expression takes up at least one token. -/
  advances : ∀ expr, call.result = .ok expr → call.before.position < call.after.position
  /-- An expression that is to be all that is left takes up all tokens. -/
  complete : call.request = .whole → ∀ expr, call.result = .ok expr →
    call.after.position = tokens.length
  /-- An error names the place where the parser stands after it, and the token there, which is
  absent only at the end. -/
  fault : ∀ error, call.result = .error (.parse error) →
    error.position = call.after.position ∧ error.found = tokens[call.after.position]? ∧
      (error.found = none ↔ call.after.position = tokens.length)

section Advance

variable {α : Type} {least : Nat} {parser : Parser ν} {reading : Reading ν α least parser.rest}

omit [Scalar ν] in
/-- A value takes up as many tokens as its reading says. -/
theorem position_advance_of_ok {value : α} (advanced : (parser.advance reading).1 = .ok value) :
    parser.position + least ≤ (parser.advance reading).2.position := by
  have bound := parser.suffix.length_le
  cases reading with
  | stuck fault rest suffix => contradiction
  | done value rest suffix shorter =>
    change parser.tokens.length - parser.rest.length + least ≤ parser.tokens.length - rest.length
    omega

omit [Scalar ν] in
/-- Whatever is read, the parser does not go back. -/
theorem position_le_position_advance :
    parser.position ≤ (parser.advance reading).2.position := by
  have shorter := reading.rest_suffix.length_le
  change parser.tokens.length - parser.rest.length ≤ parser.tokens.length - reading.rest.length
  omega

omit [Scalar ν] in
/-- An error of a token is about the first token that is left. -/
theorem eq_of_advance_eq_error {error : ParseError ν}
    (advanced : (parser.advance reading).1 = .error (.parse error)) :
    error.position = (parser.advance reading).2.position ∧
      error.found = (parser.advance reading).2.rest.head? := by
  cases reading with
  | done value rest suffix shorter => contradiction
  | stuck fault rest suffix =>
    cases fault with
    | expected descriptions =>
      cases advanced
      exact ⟨rfl, rfl⟩
    | unknownFunction name => cases advanced
    | wrongArity name expected found => cases advanced

end Advance

/-- An expression that is to be all that is left leaves nothing. -/
theorem rest_parseComplete {parser : Parser ν} {expr : Expr ν}
    (complete : parser.parseComplete.1 = .ok expr) : parser.parseComplete.2.rest = [] := by
  unfold parseComplete at complete ⊢
  generalize readChain .sum parser.rest = reading at complete ⊢
  cases reading with
  | stuck fault rest suffix => contradiction
  | done value rest suffix shorter =>
    cases rest with
    | nil => rfl
    | cons token rest' => contradiction

/-- A request is answered by what a reading gives that the walk of the request follows. -/
theorem exists_reading (parser : Parser ν) (request : Request) :
    ∃ reading : Reading ν (Expr ν) 1 parser.rest, parser.answer request = parser.advance reading ∧
      TokenWalk.FollowsBeyond parser.tokens (16 * parser.rest.length + 6)
        (fun fuel => request.walk parser.tokens fuel) reading := by
  have sums := TokenWalk.chainFollows_sum parser.tokens parser.rest
  cases request with
  | next => exact ⟨_, rfl, sums⟩
  | whole =>
    refine ⟨_, rfl, fun fuel enough => ?_⟩
    refine (sums fuel enough).bind fun expr rest _ => TokenWalk.Follows.peek ?_
    cases rest with
    | nil => exact TokenWalk.follows_pure expr
    | cons token rest' => exact TokenWalk.follows_fail _

/-- One call, wherever the parser stands. -/
theorem isConsistent_call (parser : Parser ν) (request : Request) :
    (parser.call request).IsConsistent parser.tokens := by
  obtain ⟨reading, answered, follows⟩ := exists_reading parser request
  have after : (parser.answer request).2.StandsIn parser.tokens := by
    rw [answered]
    exact standsIn (parser.advance reading).2
  refine ⟨standsIn parser, after, ?_, ?_, fun expr found => ?_, fun complete expr found => ?_,
    fun error found => ?_⟩
  · intro fuel enough
    change 16 * (parser.tokens.length - parser.position) + 6 < fuel at enough
    rw [← (standsIn parser).length_rest] at enough
    have walked := follows fuel enough parser.suffix
    rwa [TokenWalk.ending, ← answered] at walked
  · change parser.position ≤ (parser.answer request).2.position
    rw [answered]
    exact position_le_position_advance
  · change (parser.answer request).1 = _ at found
    change parser.position < (parser.answer request).2.position
    rw [answered] at found ⊢
    exact position_advance_of_ok found
  · obtain rfl : request = .whole := complete
    exact after.head?_rest_eq_none_iff.1 (List.head?_eq_none_iff.2 (rest_parseComplete found))
  · change (parser.answer request).1 = _ at found
    have same : error.position = (parser.answer request).2.position ∧
        error.found = (parser.answer request).2.rest.head? := by
      rw [answered] at found ⊢
      exact eq_of_advance_eq_error found
    refine ⟨same.1, same.2.trans after.head?_rest, ?_⟩
    rw [same.2]
    exact after.head?_rest_eq_none_iff

/-- However a parser is used, each request is answered, by a call that is consistent. -/
theorem isConsistent_of_mem_calls (parser : Parser ν) (requests : List Request) :
    (parser.calls requests).map Call.request = requests ∧
      ∀ call ∈ parser.calls requests, call.IsConsistent parser.tokens := by
  induction requests generalizing parser with
  | nil => exact ⟨rfl, List.forall_mem_nil _⟩
  | cons request requests ih =>
    have first := isConsistent_call parser request
    obtain ⟨answered, consistent⟩ := ih (parser.call request).after
    -- The call may have failed; all that matters to the next one is where the parser stands.
    rw [first.after.own] at consistent
    exact ⟨congrArg (request :: ·) answered, List.forall_mem_cons.2 ⟨first, consistent⟩⟩

/-- Whatever the tokens are and however often a parser of them is asked for an expression, or
for all that is left as one, also after errors, each request is answered by a consistent
call. -/
theorem calls_ofTokens_consistent (tokens : List (Token ν)) (requests : List Request) :
    ((ofTokens tokens).calls requests).map Call.request = requests ∧
      ∀ call ∈ (ofTokens tokens).calls requests, call.IsConsistent tokens :=
  isConsistent_of_mem_calls (ofTokens tokens) requests

/-- A parenthesis that is not closed after the expression behind it. -/
def unclosed : List (Token Float) :=
  [.openParen, .word "a", .word "b", .closeParen]

/-- The error inside the parenthesis leaves the parser in front of the second word, from where
it goes on. -/
theorem calls_ofTokens_consistent_of_unclosed :
    ∃ first second, (ofTokens unclosed).calls [.next, .next] = [first, second] ∧
      first.result = .error (.parse ⟨2, some (.word "b"), [")"]⟩) ∧ first.after.position = 2 ∧
        second.result = .ok (.symbol "b") ∧ second.after.position = 3 := by
  let first := (ofTokens unclosed).call .next
  let second := first.after.call .next
  have consistent : ∀ call ∈ [first, second], call.IsConsistent unclosed :=
    (calls_ofTokens_consistent unclosed [.next, .next]).2
  have walk : (TokenWalk.chain unclosed 71 .sum).run 0 =
      some (.error (.parse ⟨2, some (.word "b"), [")"]⟩), 2) := rfl
  have walk' : (TokenWalk.chain unclosed 71 .sum).run 2 = some (.ok (.symbol "b"), 3) := rfl
  have walked := (consistent first (.head _)).walk 71 (by decide)
  obtain ⟨result, place⟩ := Prod.mk.inj (Option.some.inj (walked.symm.trans walk))
  have walked' := (consistent second (.tail _ (.head _))).walk 71
  have before : second.before.position = 2 := place
  rw [before] at walked'
  obtain ⟨result', place'⟩ :=
    Prod.mk.inj (Option.some.inj ((walked' (by decide)).symm.trans walk'))
  exact ⟨first, second, rfl, result, place, result', place'⟩

end KalmanHeader.Parser
