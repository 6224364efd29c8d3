import KalmanHeader.Json.Codec

/-!
# Records as JSON

A record is written as an object with a member for each field. It is read from
an object in which each key is a field and no field comes twice, or from an
array of the fields in their order. A field that is not required may be left
out, and then has the value it has in the blank record.
-/

namespace KalmanHeader.Json

/-- A field of the records of type `δ`. -/
structure Field (δ : Type) where
  name : String
  isRequired : Bool
  /-- The record with the field read from JSON. -/
  read : Json → δ → Except Fault δ
  /-- The JSON of the field, unless it is left out. -/
  write : δ → Option Json

namespace Field

variable {α δ : Type}

/-- A field that every record has. -/
def required (name : String) (codec : Codec α) (get : δ → α) (set : α → δ → δ) : Field δ where
  name := name
  isRequired := true
  read json record := (codec.read json).map fun value => set value record
  write record := some (codec.write (get record))

/-- A field that may be left out, and that is left out in writing when its value
is `isAbsent`. -/
def optional (name : String) (codec : Codec α) (isAbsent : α → Bool) (get : δ → α)
    (set : α → δ → δ) : Field δ where
  name := name
  isRequired := false
  read json record := (codec.read json).map fun value => set value record
  write record := if isAbsent (get record) then none else some (codec.write (get record))

end Field

/-- The fields of the records of type `δ`, in order. -/
structure RecordFormat (δ : Type) where
  typeName : String
  fields : List (Field δ)
  blank : δ

namespace RecordFormat

variable {δ : Type}

/-- Reads the members of an object into `record`, where the fields `seen` have
come before. The result has all fields that have come. -/
def readMembers (format : RecordFormat δ) (seen : List String) (record : δ) :
    List (String × Json) → Except Fault (List String × δ)
  | [] => .ok (seen, record)
  | (key, json) :: members =>
    match format.fields.find? fun field => field.name == key with
    | none => .error (.unknownField key (format.fields.map Field.name))
    | some field =>
      if seen.contains key then .error (.duplicateField key)
      else
        match field.read json record with
        | .error fault => .error fault
        | .ok record' => format.readMembers (key :: seen) record' members

/-- Reads an object, which has to have all required fields. -/
def readObject (format : RecordFormat δ) (members : List (String × Json))
    (stray : Option Json) : Except Fault δ :=
  match format.readMembers [] format.blank members with
  | .error fault => .error fault
  | .ok (seen, record) =>
    if stray.isSome then .error .malformed
    else
      match format.fields.find? fun field => field.isRequired && !seen.contains field.name with
      | some field => .error (.missingField field.name)
      | none => .ok record

/-- Reads the items of an array into `record` as the fields from `index` on. -/
def readItems (format : RecordFormat δ) (surplus : Fault) (closed : Bool) (index : Nat)
    (record : δ) : List (Field δ) → List Json → Except Fault δ
  | [], [] => if closed then .ok record else .error .malformed
  | [], _ :: _ => .error surplus
  | field :: fields, [] =>
    if !closed then .error .malformed
    else if field.isRequired then
      .error (.wrongLength index
        ("struct " ++ format.typeName ++ " with " ++ toString format.fields.length ++
          " elements"))
    else format.readItems surplus closed (index + 1) record fields []
  | field :: fields, item :: items =>
    match field.read item record with
    | .error fault => .error fault
    | .ok record' => format.readItems surplus closed (index + 1) record' fields items

/-- Reads a record, where `surplus` is the fault of an array that is too long. -/
def read (format : RecordFormat δ) (surplus : List Json → Fault) : Json → Except Fault δ
  | .object members stray => format.readObject members stray
  | .array items closed =>
    format.readItems (surplus items) closed 0 format.blank format.fields items
  | other => .error (.ofKind other ("struct " ++ format.typeName))

/-- The members of a record in the order of its fields. -/
def members (format : RecordFormat δ) (record : δ) : List (String × Json) :=
  format.fields.filterMap fun field => (field.write record).map fun json => (field.name, json)

/-- Records in JSON text. An array that is too long is not looked into. -/
def codec (format : RecordFormat δ) : Codec δ where
  read := format.read fun _ => .malformed
  write record := .record (format.members record)

/-- Reads a record from a value that has been read as a whole: its members come
in the order of their keys, and of two members with one key only the later is
left. -/
def readValue (format : RecordFormat δ) : Json → Except Fault δ
  | .object members stray =>
    format.readObject (NameMap.ofList members).entries stray
  | json => format.read (fun items => .wrongLength items.length "fewer elements in array") json

end RecordFormat

end KalmanHeader.Json
