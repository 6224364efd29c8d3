import KalmanHeader.Json.Codec
import KalmanHeader.Proofs.Number.Scaling

/-!
# Numbers of a document

Every number that is read from a text is finite: the digits of a numeral that are kept are a
number of 64 bits, and scaling such a number gives a finite double or none. So a document
holds no infinity and nothing that is not a number.
-/

namespace KalmanHeader.Json

mutual

/-- Whether all numbers in a value are finite. -/
def IsFinite : Json → Prop
  | .array items _ => AreFinite items
  | .object members _ => MembersAreFinite members
  | leaf => ∀ number ∈ leaf.number?, number.isFinite

/-- Whether all numbers in the items are finite. -/
def AreFinite : List Json → Prop
  | [] => True
  | item :: items => item.IsFinite ∧ AreFinite items

/-- Whether all numbers in the values of the members are finite. -/
def MembersAreFinite : List (String × Json) → Prop
  | [] => True
  | (_, value) :: members => value.IsFinite ∧ MembersAreFinite members

end

/-- Items are finite one by one. -/
theorem areFinite_iff {items : List Json} : AreFinite items ↔ ∀ item ∈ items, item.IsFinite := by
  induction items with
  | nil => simp [AreFinite]
  | cons first others ih => rw [AreFinite, List.forall_mem_cons, ih]

/-- Members are finite one by one. -/
theorem membersAreFinite_iff {members : List (String × Json)} :
    MembersAreFinite members ↔ ∀ member ∈ members, member.2.IsFinite := by
  induction members with
  | nil => simp [MembersAreFinite]
  | cons first others ih => rw [MembersAreFinite, List.forall_mem_cons, ih]

section Numerals

/-- What digits are put together to fits in 64 bits. -/
theorem keepDigits_le {number : Nat} (small : number ≤ greatestInteger) (digits : List Char) :
    (keepDigits number digits).1 ≤ greatestInteger := by
  induction digits generalizing number with
  | nil => exact small
  | cons first others ih =>
    rw [keepDigits]
    simp only
    split
    · exact ih ‹_›
    · exact small

/-- The double of a numeral is finite. -/
theorem Numeral.isFinite_toDouble (numeral : Numeral) : numeral.toDouble.IsFinite := by
  have small : numeral.decimal.digits < 2 ^ 64 := by
    have whole := keepDigits_le (Nat.zero_le _) numeral.whole
    exact Nat.lt_succ_of_le (keepDigits_le whole _)
  unfold toDouble
  split
  · exact nofun
  · rename_i value scaled
    have finite := Number.isFinite_scaled? small scaled
    rintro _ ⟨⟩
    split
    · exact Number.isFinite_neg finite
    · exact finite

/-- The value of a numeral is finite. -/
theorem Numeral.isFinite_toJson (numeral : Numeral) : numeral.toJson.IsFinite := by
  unfold toJson
  simp only
  split
  · exact numeral.isFinite_toDouble
  · split
    · split
      · rintro _ ⟨⟩
        exact Number.isFinite_toFloat (by omega)
      · exact numeral.isFinite_toDouble
    · split
      · rintro _ ⟨⟩
        exact Number.isFinite_toFloat (by unfold greatestInteger at *; omega)
      · exact numeral.isFinite_toDouble

/-- The value of what is read as a numeral is finite. -/
theorem isFinite_readNumeral (negative : Bool) (text : List Char) :
    (readNumeral negative text).1.IsFinite := by
  unfold readNumeral
  simp only
  split
  · exact Numeral.isFinite_toJson _
  · exact nofun

end Numerals

namespace Token

/-- Whether the numbers in a token are finite. -/
def IsFinite : Token → Prop
  | .scalar value => value.IsFinite
  | _ => True

/-- The tokens of a text are finite. -/
theorem isFinite_ofText (text : List Char) : ∀ token ∈ ofText text, token.IsFinite := by
  fun_induction ofText text with
  | case1 => exact nofun
  | case2 _ ih | case3 _ ih | case4 _ ih | case5 _ ih | case6 _ ih | case7 _ ih =>
    exact List.forall_mem_cons.2 ⟨trivial, ih⟩
  | case8 _ ih | case9 _ ih | case10 _ ih | case12 _ _ _ _ ih =>
    exact List.forall_mem_cons.2 ⟨nofun, ih⟩
  | case14 _ _ ih => exact List.forall_mem_cons.2 ⟨isFinite_readNumeral true _, ih⟩
  | case15 _ _ _ _ _ _ _ _ _ _ _ _ _ _ ih => exact ih
  | case17 _ _ _ _ _ _ _ _ _ _ _ _ _ _ _ _ ih =>
    exact List.forall_mem_cons.2 ⟨isFinite_readNumeral false _, ih⟩
  | case11 | case13 | case16 | case18 => exact List.forall_mem_singleton.2 nofun

end Token

namespace Reading

variable {α β : Type} {tokens : List Token} {property : α → Prop} {property' : β → Prop}
  {result : α} {rest : List Token} {reading : Reading α tokens}

/-- Whether the result of a reading has a property, and the tokens that are left are
finite. -/
structure Ensures (reading : Reading α tokens) (property : α → Prop) : Prop where
  result : property reading.result
  rest : ∀ after, reading.rest = some after → ∀ token ∈ after, token.IsFinite

/-- What breaks off leaves nothing. -/
theorem ensures_brokenOff (holds : property result) :
    (brokenOff result : Reading α tokens).Ensures property :=
  ⟨holds, nofun⟩

/-- What uses up one token leaves the others. -/
theorem ensures_ofToken {token : Token} (holds : property result)
    (finite : ∀ token ∈ rest, token.IsFinite) :
    (ofToken result rest : Reading α (token :: rest)).Ensures property :=
  ⟨holds, fun _ equal => Option.some.inj equal ▸ finite⟩

/-- A reading ensures the same from one token earlier. -/
theorem Ensures.afterToken {token : Token} (ensures : reading.Ensures property) :
    (reading.afterToken : Reading α (token :: tokens)).Ensures property :=
  ⟨ensures.result, ensures.rest⟩

/-- What is made of a result has what follows from its property. -/
theorem Ensures.map {f : α → β} (ensures : reading.Ensures property)
    (follows : ∀ result, property result → property' (f result)) :
    (reading.map f).Ensures property' :=
  ⟨follows _ ensures.result, ensures.rest⟩

/-- A reading that goes on ensures what both of its ends ensure. -/
theorem Ensures.andThen {stopped : α → β}
    {next : α → (rest : List Token) → rest.length < tokens.length → Reading β rest}
    (ensures : reading.Ensures property)
    (ended : ∀ result, property result → property' (stopped result))
    (further : ∀ result rest shorter, property result → (∀ token ∈ rest, token.IsFinite) →
      (next result rest shorter).Ensures property') :
    (reading.andThen stopped next).Ensures property' := by
  unfold Reading.andThen
  split
  · exact ensures_brokenOff (ended _ ensures.result)
  · rename_i rest found
    have after := further reading.result rest (reading.shorter rest found) ensures.result
      (ensures.rest rest found)
    exact ⟨after.result, after.rest⟩

end Reading

/-- What is read from finite tokens is finite: a value, the members of an object, and the items
of an array. -/
theorem readings_ensure :
    (∀ depth tokens, (∀ token ∈ tokens, token.IsFinite) →
      (readValue depth tokens).Ensures IsFinite) ∧
    (∀ depth tokens, (∀ token ∈ tokens, token.IsFinite) →
      (readMembers depth tokens).Ensures fun read => MembersAreFinite read.1) ∧
    ∀ depth tokens, (∀ token ∈ tokens, token.IsFinite) →
      (readItems depth tokens).Ensures fun read => AreFinite read.1 := by
  refine readValue.mutual_induct _ _ _ ?_ ?_ ?_ ?_ ?_ ?_ ?_ ?_ ?_ ?_ ?_ ?_ ?_
  · intro depth rest _
    rw [readValue]
    exact Reading.ensures_brokenOff nofun
  · intro depth value rest intact finite
    obtain ⟨first, others⟩ := List.forall_mem_cons.1 finite
    rw [readValue]
    · exact Reading.ensures_ofToken first others
    · exact intact
  · intro rest _
    rw [readValue]
    exact Reading.ensures_brokenOff trivial
  · intro depth rest finite
    rw [readValue]
    exact (Reading.ensures_ofToken trivial
      (List.forall_mem_cons.1 (List.forall_mem_cons.1 finite).2).2).afterToken
  · intro depth rest present ih finite
    rw [readValue]
    · refine ((ih (List.forall_mem_cons.1 finite).2).map ?_).afterToken
      exact fun _ items => items
    · exact present
  · intro rest _
    rw [readValue]
    exact Reading.ensures_brokenOff trivial
  · intro depth rest finite
    rw [readValue]
    exact (Reading.ensures_ofToken trivial
      (List.forall_mem_cons.1 (List.forall_mem_cons.1 finite).2).2).afterToken
  · intro depth rest present ih finite
    rw [readValue]
    · refine ((ih (List.forall_mem_cons.1 finite).2).map ?_).afterToken
      exact fun _ members => members
    · exact present
  · intro depth tokens _ _ _ _ _ _ _ _ _
    rw [readValue]
    · exact Reading.ensures_brokenOff nofun
    all_goals assumption
  · intro depth key rest ihValue ihMembers finite
    obtain ⟨_, _, finite⟩ := List.forall_mem_cons.1 finite |>.imp id List.forall_mem_cons.1
    rw [readMembers]
    refine (Reading.Ensures.andThen (ihValue finite) ?_ ?_).afterToken.afterToken
    · exact fun value holds => ⟨holds, trivial⟩
    · intro value after shorter holds left
      split
      · exact Reading.ensures_ofToken ⟨holds, trivial⟩ (List.forall_mem_cons.1 left).2
      · refine ((ihMembers [] _ ‹_› (List.forall_mem_cons.1 left).2).map ?_).afterToken
        exact fun _ members => ⟨holds, members⟩
      · exact Reading.ensures_brokenOff ⟨holds, trivial⟩
  · intro depth key rest noColon _
    rw [readMembers]
    · exact Reading.ensures_brokenOff ⟨nofun, trivial⟩
    · exact noColon
  · intro depth stray noKey noString _
    rw [readMembers]
    · exact Reading.ensures_brokenOff trivial
    · exact noKey
    · exact noString
  · intro depth tokens ihValue ihItems finite
    rw [readItems]
    refine Reading.Ensures.andThen (ihValue finite) ?_ ?_
    · exact fun value holds => ⟨holds, trivial⟩
    · intro value after shorter holds left
      split
      · exact Reading.ensures_ofToken ⟨holds, trivial⟩ (List.forall_mem_cons.1 left).2
      · refine ((ihItems [] _ ‹_› (List.forall_mem_cons.1 left).2).map ?_).afterToken
        exact fun _ items => ⟨holds, items⟩
      · exact Reading.ensures_brokenOff ⟨holds, trivial⟩

/-- The value of a document is finite. -/
theorem Document.isFinite_ofText (text : String) : (Document.ofText text).value.IsFinite :=
  (readings_ensure.1 nestingLimit _ (Token.isFinite_ofText text.toList)).result

end KalmanHeader.Json
