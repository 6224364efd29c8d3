import KalmanHeader.Proofs.Json.Codec
import KalmanHeader.Proofs.Json.Finite
import KalmanHeader.Proofs.Results

/-!
# What a codec ensures

Whatever a codec reads from a finite value may have a property. For a list, a map or a value
that may be missing, that is a property of the parts. For a record it is an invariant: the
blank record has it and reading a field keeps it, in whatever order the fields come.
-/

namespace KalmanHeader.Json

variable {α δ : Type}

namespace Codec

variable {codec : Codec α} {property : α → Prop}

/-- Whether all that is read from finite values has a property. -/
def Ensures (codec : Codec α) (property : α → Prop) : Prop :=
  ∀ json value, json.IsFinite → codec.read json = .ok value → property value

/-- Nothing is ensured of any codec. -/
theorem ensures_true : codec.Ensures fun _ => True :=
  fun _ _ _ _ => trivial

/-- Items are read one by one. -/
theorem Ensures.readAll (ensures : codec.Ensures property) {items : List Json} {values : List α}
    (finite : ∀ item ∈ items, item.IsFinite) (read : readAll codec.read items = .ok values) :
    ∀ value ∈ values, property value := by
  induction items generalizing values with
  | nil =>
    cases read
    exact List.forall_mem_nil _
  | cons first others ih =>
    obtain ⟨head, tail⟩ := List.forall_mem_cons.1 finite
    rw [Json.readAll] at read
    split at read
    · cases read
    · rename_i value found
      obtain ⟨further, rest, rfl⟩ := map_eq_ok.1 read
      exact List.forall_mem_cons.2 ⟨ensures _ _ head found, ih tail rest⟩

/-- A list has items with the property. -/
theorem Ensures.list (ensures : codec.Ensures property) :
    (list codec).Ensures fun values => ∀ value ∈ values, property value := by
  intro json values finite read
  cases json with
  | array items closed =>
    have items := areFinite_iff.1 finite
    simp only [Codec.list] at read
    split at read
    · cases read
    · rename_i found
      split at read
      · cases read
        exact ensures.readAll items found
      · cases read
  | _ => cases read

/-- A value that may be missing has the property if it is there. -/
theorem Ensures.nullable (ensures : codec.Ensures property) :
    (nullable codec).Ensures fun value => ∀ present ∈ value, property present := by
  intro json value finite read
  by_cases missing : json = .null
  · rw [missing] at read
    cases read
    rintro _ ⟨⟩
  · rw [read_nullable missing] at read
    obtain ⟨present, found, rfl⟩ := map_eq_ok.1 read
    rintro _ ⟨⟩
    exact ensures _ _ finite found

/-- Entries are read one by one. -/
theorem Ensures.readEntries (ensures : codec.Ensures property) {members : List (String × Json)}
    {map map' : NameMap α} (finite : ∀ member ∈ members, member.2.IsFinite)
    (kept : ∀ entry ∈ map.entries, property entry.2)
    (read : readEntries codec.read map members = .ok map') :
    ∀ entry ∈ map'.entries, property entry.2 := by
  induction members generalizing map with
  | nil =>
    cases read
    exact kept
  | cons first others ih =>
    obtain ⟨head, tail⟩ := List.forall_mem_cons.1 finite
    rw [Json.readEntries] at read
    split at read
    · cases read
    · rename_i value found
      refine ih tail (fun entry member => ?_) read
      rcases NameMap.mem_insert member with rfl | before
      · exact ensures _ _ head found
      · exact kept entry before

/-- A map has values with the property. -/
theorem Ensures.nameMap (ensures : codec.Ensures property) :
    (nameMap codec).Ensures fun map => ∀ entry ∈ map.entries, property entry.2 := by
  intro json map finite read
  cases json with
  | object members stray =>
    have members := membersAreFinite_iff.1 finite
    simp only [Codec.nameMap] at read
    split at read
    · cases read
    · rename_i found
      split at read
      · cases read
        exact ensures.readEntries members (fun _ none => absurd none List.not_mem_nil) found
      · cases read
  | _ => cases read

/-- What a text is read as has the property. -/
theorem Ensures.readText (ensures : codec.Ensures property) {text : String} {value : α}
    (read : codec.readText text = .ok value) : property value :=
  ensures _ _ (Document.isFinite_ofText text) (read_of_readText read)

end Codec

namespace Field

variable {codec : Codec α} {property : α → Prop} {invariant : δ → Prop} {name : String}
  {get : δ → α} {set : α → δ → δ}

/-- Whether reading a field keeps an invariant. -/
def Keeps (field : Field δ) (invariant : δ → Prop) : Prop :=
  ∀ json record record', json.IsFinite → invariant record →
    field.read json record = .ok record' → invariant record'

/-- A required field keeps what any value with the property keeps. -/
theorem keeps_required (ensures : codec.Ensures property)
    (kept : ∀ value record, property value → invariant record → invariant (set value record)) :
    (required name codec get set).Keeps invariant := by
  intro json record record' finite holds read
  obtain ⟨value, found, rfl⟩ := map_eq_ok.1 read
  exact kept value record (ensures _ _ finite found) holds

/-- An optional field is read like a required one. -/
theorem keeps_optional {isAbsent : α → Bool} (ensures : codec.Ensures property)
    (kept : ∀ value record, property value → invariant record → invariant (set value record)) :
    (optional name codec isAbsent get set).Keeps invariant :=
  @keeps_required α δ codec property invariant name get set ensures kept

end Field

namespace RecordFormat

variable {format : RecordFormat δ} {invariant : δ → Prop}

/-- Members keep an invariant that the fields keep. -/
theorem keeps_readMembers (keeps : ∀ field ∈ format.fields, field.Keeps invariant)
    {members : List (String × Json)} (finite : ∀ member ∈ members, member.2.IsFinite)
    {seen seen' : List String} {record record' : δ} (holds : invariant record)
    (read : format.readMembers seen record members = .ok (seen', record')) : invariant record' := by
  induction members generalizing seen record with
  | nil =>
    cases read
    exact holds
  | cons first others ih =>
    obtain ⟨head, tail⟩ := List.forall_mem_cons.1 finite
    rw [readMembers] at read
    split at read
    · cases read
    · rename_i field known
      split at read
      · cases read
      · split at read
        · cases read
        · rename_i found
          exact ih tail (keeps field (List.mem_of_find?_eq_some known) _ _ _ head holds found) read

/-- Items keep an invariant that the fields keep. -/
theorem keeps_readItems {surplus : Fault} {closed : Bool} {fields : List (Field δ)}
    (keeps : ∀ field ∈ fields, field.Keeps invariant) {items : List Json}
    (finite : ∀ item ∈ items, item.IsFinite) {index : Nat} {record record' : δ}
    (holds : invariant record)
    (read : format.readItems surplus closed index record fields items = .ok record') :
    invariant record' := by
  induction fields generalizing index record items with
  | nil =>
    cases items with
    | nil =>
      rw [readItems] at read
      split at read
      · cases read
        exact holds
      · cases read
    | cons =>
      rw [readItems] at read
      cases read
  | cons field fields ih =>
    obtain ⟨keep, keeps⟩ := List.forall_mem_cons.1 keeps
    cases items with
    | nil =>
      rw [readItems] at read
      split at read
      · cases read
      · split at read
        · cases read
        · exact ih keeps finite holds read
    | cons first others =>
      obtain ⟨head, tail⟩ := List.forall_mem_cons.1 finite
      rw [readItems] at read
      split at read
      · cases read
      · rename_i found
        exact ih keeps tail (keep _ _ _ head holds found) read

/-- A record has an invariant that the blank record has and the fields keep. -/
theorem ensures_codec (blank : invariant format.blank)
    (keeps : ∀ field ∈ format.fields, field.Keeps invariant) :
    format.codec.Ensures invariant := by
  intro json record finite read
  cases json with
  | object members stray =>
    change format.readObject members stray = _ at read
    rw [readObject] at read
    split at read
    · cases read
    · rename_i found
      split at read
      · cases read
      · split at read
        · cases read
        · cases read
          exact keeps_readMembers keeps (membersAreFinite_iff.1 finite) blank found
  | array items closed =>
    exact keeps_readItems keeps (areFinite_iff.1 finite) blank read
  | _ => cases read

end RecordFormat

end KalmanHeader.Json
