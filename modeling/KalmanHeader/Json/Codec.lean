import KalmanHeader.Json.Document
import KalmanHeader.Json.Fault
import KalmanHeader.Text.NameMap

/-!
# Reading and writing values as JSON

A codec knows both directions between JSON and the values of one type. Reading
goes from left to right, and the first problem met is the fault reported: an
item of the wrong kind comes before a missing bracket after it.
-/

namespace KalmanHeader.Json

/-- How values of one type are read from JSON and written as JSON. -/
structure Codec (α : Type) where
  read : Json → Except Fault α
  write : α → Json

/-- The double that a JSON number stands for. -/
def number? : Json → Option Float
  | .integer value => some (Number.Decimal.toFloat (decide (value < 0)) ⟨value.natAbs, 0⟩)
  | .float value => some value
  | _ => none

/-- Reads the items one after another. -/
def readAll {α : Type} (read : Json → Except Fault α) : List Json → Except Fault (List α)
  | [] => .ok []
  | item :: items =>
    match read item with
    | .error fault => .error fault
    | .ok value => (readAll read items).map (value :: ·)

/-- Reads the members one after another into `map`. -/
def readEntries {α : Type} (read : Json → Except Fault α) (map : NameMap α) :
    List (String × Json) → Except Fault (NameMap α)
  | [] => .ok map
  | (key, json) :: members =>
    match read json with
    | .error fault => .error fault
    | .ok value => readEntries read (map.insert key value) members

namespace Codec

variable {α : Type}

/-- A string. -/
def string : Codec String where
  read
    | .string value => .ok value
    | other => .error (.ofKind other "a string")
  write := .string

/-- A number. -/
def number : Codec Float where
  read json :=
    match json.number? with
    | some value => .ok value
    | none => .error (.ofKind json "f64")
  write := .float

/-- An array of any length. -/
def list (codec : Codec α) : Codec (List α) where
  read
    | .array items closed =>
      match readAll codec.read items with
      | .error fault => .error fault
      | .ok values => if closed then .ok values else .error .malformed
    | other => .error (.ofKind other "a sequence")
  write values := .list (values.map codec.write)

/-- An object with any keys. Of two members with one key the later counts. -/
def nameMap (codec : Codec α) : Codec (NameMap α) where
  read
    | .object members stray =>
      match readEntries codec.read .empty members with
      | .error fault => .error fault
      | .ok map => if stray.isNone then .ok map else .error .malformed
    | other => .error (.ofKind other "a map")
  write map := .record (map.entries.map fun entry => (entry.1, codec.write entry.2))

/-- A value or `null`. -/
def nullable (codec : Codec α) : Codec (Option α) where
  read
    | .null => .ok none
    | json => (codec.read json).map some
  write
    | none => .null
    | some value => codec.write value

/-- The value that a whole document stands for. -/
def readDocument (codec : Codec α) (document : Document) : Except Fault α :=
  match codec.read document.value with
  | .error fault => .error fault
  | .ok value => if document.complete then .ok value else .error .malformed

/-- The value that a text stands for. -/
def readText (codec : Codec α) (text : String) : Except Fault α :=
  codec.readDocument (.ofText text)

end Codec

end KalmanHeader.Json
