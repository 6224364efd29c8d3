import KalmanHeader.Json.Record
import KalmanHeader.Proofs.Json.Layout
import KalmanHeader.Proofs.Text.NameMap

/-!
# Values that survive being written

A codec restores a value if what it writes for the value can be read back and is read as
that value. Lists, maps and values that may be missing are restored if their parts are, and
a record is restored if the members that are written take the blank record to it, one field
after another.
-/

namespace KalmanHeader.Json

section Leaves

variable {depth : Nat}

/-- Missing values can be read back. -/
@[simp] theorem isReadable_null : IsReadable depth .null := by
  cases depth <;> trivial

/-- Strings can be read back. -/
@[simp] theorem isReadable_string (value : String) : IsReadable depth (.string value) := by
  cases depth <;> trivial

/-- Doubles can be read back if they are read back from their own text. -/
@[simp] theorem isReadable_float {value : Float} :
    IsReadable depth (.float value) ↔ Rereads value := by
  cases depth <;> rfl

end Leaves

namespace Codec

variable {α : Type} {codec : Codec α} {depth : Nat} {value : α} {values : List α}

/-- What is read from the text of a JSON value. -/
theorem readText_pretty {json : Json} (readable : IsReadable nestingLimit json)
    (read : codec.read json = .ok value) : codec.readText json.pretty = .ok value := by
  rw [readText, readable.ofText_pretty, readDocument, read]
  rfl

/-- Whether a value is written in a way in which it is read back, with at most `depth`
levels of brackets. -/
structure Restores (codec : Codec α) (depth : Nat) (value : α) : Prop where
  readable : IsReadable depth (codec.write value)
  read : codec.read (codec.write value) = .ok value

/-- Strings are restored. -/
theorem restores_string (value : String) : string.Restores depth value :=
  ⟨isReadable_string value, rfl⟩

/-- Items are read one by one. -/
theorem readAll_map_write
    (each : ∀ value ∈ values, codec.read (codec.write value) = .ok value) :
    readAll codec.read (values.map codec.write) = .ok values := by
  induction values with
  | nil => rfl
  | cons first others ih =>
    obtain ⟨head, tail⟩ := List.forall_mem_cons.1 each
    rw [List.map_cons, readAll, head, ih tail]
    rfl

/-- Lists are restored item by item. -/
theorem restores_list (each : ∀ value ∈ values, codec.Restores depth value) :
    (list codec).Restores (depth + 1) values where
  readable := ⟨rfl, List.forall_mem_map.2 fun value member => (each value member).readable⟩
  read := by
    have items := readAll_map_write fun value member => (each value member).read
    simp only [Codec.list, Json.list, items, ↓reduceIte]

/-- A missing value is restored. -/
theorem restores_none : (nullable codec).Restores depth none :=
  ⟨isReadable_null, rfl⟩

/-- What is not missing is read as a value. -/
theorem read_nullable {json : Json} (present : json ≠ .null) :
    (nullable codec).read json = (codec.read json).map some := by
  cases json with
  | null => exact absurd rfl present
  | _ => rfl

/-- A value that is there is restored, as long as it is not written as a missing one. -/
theorem restores_some (restores : codec.Restores depth value)
    (present : codec.write value ≠ .null) : (nullable codec).Restores depth (some value) where
  readable := restores.readable
  read := by
    change (nullable codec).read (codec.write value) = .ok (some value)
    rw [read_nullable present, restores.read]
    rfl

/-- Texts that may be missing are restored. -/
theorem restores_text (value : Option String) : (nullable string).Restores depth value := by
  cases value with
  | none => exact restores_none
  | some text => exact restores_some (restores_string text) nofun

/-- Entries are read one by one. -/
theorem readEntries_map_write {entries : List (String × α)}
    (each : ∀ entry ∈ entries, codec.read (codec.write entry.2) = .ok entry.2) (map : NameMap α) :
    readEntries codec.read map (entries.map fun entry => (entry.1, codec.write entry.2)) =
      .ok (entries.foldl (fun map entry => map.insert entry.1 entry.2) map) := by
  induction entries generalizing map with
  | nil => rfl
  | cons first others ih =>
    obtain ⟨head, tail⟩ := List.forall_mem_cons.1 each
    rw [List.map_cons, readEntries, head, List.foldl_cons]
    exact ih tail _

/-- A map is read from its entries in any order. -/
theorem read_nameMap {map : NameMap α} {entries : List (String × α)}
    (order : entries.Perm map.entries)
    (each : ∀ entry ∈ map.entries, codec.read (codec.write entry.2) = .ok entry.2) :
    (nameMap codec).read (.record (entries.map fun entry => (entry.1, codec.write entry.2))) =
      .ok map := by
  have members := readEntries_map_write (fun entry member => each entry (order.mem_iff.1 member))
    .empty
  simp only [Codec.nameMap, Json.record, members, Option.isNone_none, ↓reduceIte]
  exact congrArg Except.ok (NameMap.ofList_of_perm order)

end Codec

variable {α δ : Type} {depth : Nat}

namespace Field

/-- Whether reading a field takes one record to another, when the field has the given JSON
or is left out. -/
def Copies (depth : Nat) (field : Field δ) (json : Option Json) (record record' : δ) : Prop :=
  match json with
  | none => field.isRequired = false ∧ record = record'
  | some json => IsReadable depth json ∧ field.read json record = .ok record'

variable {codec : Codec α} {name : String} {get : δ → α} {set : α → δ → δ} {source record : δ}

/-- A required field is copied if its value is restored. -/
theorem copies_required (restores : codec.Restores depth (get source)) :
    (required name codec get set).Copies depth ((required name codec get set).write source) record
      (set (get source) record) := by
  refine ⟨restores.readable, ?_⟩
  change (codec.read (codec.write (get source))).map _ = _
  rw [restores.read]
  rfl

/-- An optional field is copied if its value is restored where it is written, and is already
there where it is not. -/
theorem copies_optional {isAbsent : α → Bool}
    (present : isAbsent (get source) = false → codec.Restores depth (get source))
    (absent : isAbsent (get source) = true → record = set (get source) record) :
    (optional name codec isAbsent get set).Copies depth
      ((optional name codec isAbsent get set).write source) record (set (get source) record) := by
  change Copies depth _
    (if isAbsent (get source) then none else some (codec.write (get source))) _ _
  cases missing : isAbsent (get source) with
  | true => exact ⟨rfl, absent missing⟩
  | false =>
    refine ⟨(present missing).readable, ?_⟩
    change (codec.read (codec.write (get source))).map _ = _
    rw [(present missing).read]
    rfl

/-- A field that is left out when there is no value is copied if its value is restored. -/
theorem copies_nullable {codec : Codec α} {get : δ → Option α} {set : Option α → δ → δ}
    (restores : (codec.nullable).Restores depth (get source)) (absent : record = set none record) :
    (optional name codec.nullable Option.isNone get set).Copies depth
      ((optional name codec.nullable Option.isNone get set).write source) record
      (set (get source) record) :=
  copies_optional (fun _ => restores) fun missing =>
    absent.trans (congrArg (set · record) (Option.isNone_iff_eq_none.1 missing).symm)

end Field

namespace RecordFormat

/-- The members of the fields that are written. -/
def membersOf (fields : List (Field δ)) (written : Field δ → Option Json) :
    List (String × Json) :=
  fields.filterMap fun field => (written field).map fun json => (field.name, json)

/-- Whether reading what is written for the fields takes one record to another. -/
inductive Assembles (depth : Nat) (written : Field δ → Option Json) :
    List (Field δ) → δ → δ → Prop where
  | nil {record : δ} : Assembles depth written [] record record
  | cons {field : Field δ} {fields : List (Field δ)} {record record' record'' : δ}
      (head : field.Copies depth (written field) record record')
      (tail : Assembles depth written fields record' record'') :
      Assembles depth written (field :: fields) record record''

variable {format : RecordFormat δ} {written : Field δ → Option Json} {fields : List (Field δ)}
  {record record' : δ}

/-- A field that is left out has no member. -/
theorem membersOf_skip {field : Field δ} (skipped : written field = none) :
    membersOf (field :: fields) written = membersOf fields written := by
  rw [membersOf, List.filterMap_cons, skipped]
  rfl

/-- A field that is written has a member. -/
theorem membersOf_write {field : Field δ} {json : Json} (present : written field = some json) :
    membersOf (field :: fields) written = (field.name, json) :: membersOf fields written := by
  rw [membersOf, List.filterMap_cons, present]
  rfl

/-- What is written for the fields can be read back. -/
theorem Assembles.readable (assembles : Assembles depth written fields record record') :
    IsReadable (depth + 1) (.record (membersOf fields written)) := by
  refine ⟨rfl, ?_⟩
  induction assembles with
  | nil => exact List.forall_mem_nil _
  | cons head _ ih =>
    rename_i field fields _ _ _ _
    cases json : written field with
    | none => rwa [membersOf_skip json]
    | some value =>
      rw [json] at head
      rw [membersOf_write json]
      exact List.forall_mem_cons.2 ⟨head.1, ih⟩

/-- A field is found by its name, if no other has it. -/
theorem find?_name (distinct : (format.fields.map Field.name).Nodup) {field : Field δ}
    (member : field ∈ format.fields) :
    (format.fields.find? fun other => other.name == field.name) = some field := by
  cases found : format.fields.find? fun other => other.name == field.name with
  | none => exact absurd (List.find?_eq_none.1 found field member) (by simp)
  | some other =>
    have same : other.name = field.name := beq_iff_eq.1 (List.find?_some found :)
    rw [List.inj_on_of_nodup_map distinct (List.mem_of_find?_eq_some found) member same]

/-- Members that are written field after field are read one after another. Each required
field is among those read. -/
theorem Assembles.readMembers (assembles : Assembles depth written fields record record')
    (distinct : (format.fields.map Field.name).Nodup)
    (known : ∀ field ∈ fields, field ∈ format.fields)
    (once : (fields.map Field.name).Nodup) {seen : List String}
    (fresh : ∀ field ∈ fields, field.name ∉ seen) :
    ∃ seen', format.readMembers seen record (membersOf fields written) = .ok (seen', record') ∧
      seen ⊆ seen' ∧ ∀ field ∈ fields, field.isRequired → field.name ∈ seen' := by
  induction assembles generalizing seen with
  | nil => exact ⟨seen, rfl, List.Subset.refl seen, nofun⟩
  | cons head _ ih =>
    rename_i field fields _ _ _ _
    obtain ⟨member, known⟩ := List.forall_mem_cons.1 known
    obtain ⟨apart, once⟩ := List.nodup_cons.1 once
    obtain ⟨unseen, fresh⟩ := List.forall_mem_cons.1 fresh
    cases json : written field with
    | none =>
      rw [json] at head
      obtain ⟨optional, rfl⟩ := head
      obtain ⟨seen', read, more, required⟩ := ih known once fresh
      rw [membersOf_skip json]
      refine ⟨seen', read, more, List.forall_mem_cons.2 ⟨fun isRequired => ?_, required⟩⟩
      cases optional.symm.trans isRequired
    | some value =>
      rw [json] at head
      have fresh' : ∀ other ∈ fields, other.name ∉ field.name :: seen := by
        intro other otherMember again
        rcases List.mem_cons.1 again with same | before
        · exact apart (same ▸ List.mem_map_of_mem otherMember)
        · exact fresh other otherMember before
      obtain ⟨seen', read, more, required⟩ := ih known once fresh'
      have isSeen : field.name ∈ seen' := more List.mem_cons_self
      refine ⟨seen', ?_, fun name before => more (List.mem_cons_of_mem _ before),
        List.forall_mem_cons.2 ⟨fun _ => isSeen, required⟩⟩
      rw [membersOf_write json, RecordFormat.readMembers, find?_name distinct member]
      simp only [List.contains_eq_mem, decide_eq_false unseen, Bool.false_eq_true, ↓reduceIte,
        head.2]
      exact read

/-- A record is read from an object with the members that take the blank record to it. -/
theorem Assembles.readObject (assembles : Assembles depth written format.fields format.blank record)
    (distinct : (format.fields.map Field.name).Nodup) :
    format.readObject (membersOf format.fields written) none = .ok record := by
  obtain ⟨seen, read, _, required⟩ := assembles.readMembers distinct (fun _ member => member)
    distinct fun _ _ => List.not_mem_nil
  have complete : (format.fields.find? fun field =>
      field.isRequired && !seen.contains field.name) = none := by
    refine List.find?_eq_none.2 fun field member => ?_
    cases isRequired : field.isRequired with
    | false => simp
    | true => simp [required field member isRequired]
  rw [RecordFormat.readObject, read]
  simp only [Option.isSome_none, Bool.false_eq_true, ↓reduceIte, complete]

/-- A record is restored if its fields take the blank record to it. -/
theorem Assembles.restores
    (assembles : Assembles depth (Field.write · record) format.fields format.blank record)
    (distinct : (format.fields.map Field.name).Nodup) :
    format.codec.Restores (depth + 1) record :=
  ⟨assembles.readable, assembles.readObject distinct⟩

end RecordFormat

end KalmanHeader.Json
