import KalmanHeader.Json.Record
import KalmanHeader.Model.Basic

/-!
# Models as JSON

A model file is a JSON object. What a model leaves out is left out of the file,
and what is empty by default is not written, so reading a file that was written
gives the model back.
-/

namespace KalmanHeader

open Json (Codec Fault RecordFormat)

/-- Reads a value in one of several forms. All of the value has to be JSON
before any form is tried. -/
def Json.readForms {α : Type} (enumeration : String) (forms : List (Json → Option α))
    (json : Json) : Except Fault α :=
  if !json.isIntact then .error .malformed
  else
    match forms.findSome? fun form => form json with
    | some value => .ok value
    | none => .error (.noForm enumeration)

namespace Formula

/-- The formula that a JSON value is. -/
def ofJson? (json : Json) : Option Formula :=
  match json with
  | .string source => some (.text source)
  | _ => json.number?.map .number

/-- Formulas in JSON. -/
def codec : Codec Formula where
  read := Json.readForms "ExpressionOrNumber" [ofJson?]
  write
    | .number value => .float value
    | .text source => .string source

end Formula

namespace FormulaArray

/-- The formulas that the items of a JSON array are. -/
def elements? : Json → Option (List Formula)
  | .array items _ => items.mapM Formula.ofJson?
  | _ => none

/-- The rows that the items of a JSON array are. -/
def rows? : Json → Option (List (List Formula))
  | .array items _ => items.mapM elements?
  | _ => none

/-- Arrays of formulas in JSON. An array without items is a vector. -/
def codec : Codec FormulaArray where
  read := Json.readForms "ArraySpec"
    [fun json => (elements? json).map .vector, fun json => (rows? json).map .matrix]
  write
    | .vector elements => (Codec.list Formula.codec).write elements
    | .matrix rows => (Codec.list (Codec.list Formula.codec)).write rows

end FormulaArray

/-- Further arrays in JSON. -/
def PostEntry.format : RecordFormat PostEntry where
  typeName := "PostEntry"
  blank := ⟨"", .vector []⟩
  fields := [
    .required "name" .string name fun value entry => { entry with name := value },
    .required "data" FormulaArray.codec data fun value entry => { entry with data := value }]

/-- Why there is no model in a text. -/
inductive ModelError where
  | json (fault : Fault)
  | unsupportedSchema (version : String)
  deriving Repr

/-- The text of a model error, unless the text is no JSON. -/
def ModelError.message? : ModelError → Option String
  | .json fault => fault.message?
  | .unsupportedSchema version =>
    some ("Unsupported schema version '" ++ version ++ "'. Supported versions: " ++
      ", ".intercalate FilterModel.supportedSchemas)

namespace FilterModel

/-- The model that says nothing. -/
def blank : FilterModel where
  schema := ""
  name := ""
  description := none
  state := []
  transition := []
  observation := []
  transitionJacobian := none
  observationJacobian := none
  constants := .empty
  post := []
  header := none

/-- Models in JSON. -/
def format : RecordFormat FilterModel where
  typeName := "EkfModel"
  blank := blank
  fields := [
    .required "schema" .string schema fun value model => { model with schema := value },
    .required "name" .string name fun value model => { model with name := value },
    .optional "description" (.nullable .string) Option.isNone description
      fun value model => { model with description := value },
    .required "state" (.list .string) state fun value model => { model with state := value },
    .required "px" formulas transition fun value model => { model with transition := value },
    .required "hx" formulas observation fun value model => { model with observation := value },
    .optional "F" jacobian Option.isNone transitionJacobian
      fun value model => { model with transitionJacobian := value },
    .optional "H" jacobian Option.isNone observationJacobian
      fun value model => { model with observationJacobian := value },
    .optional "constants" (.nameMap Formula.codec) (fun constants => constants.entries.isEmpty)
      constants fun value model => { model with constants := value },
    .optional "post" (.list PostEntry.format.codec) List.isEmpty post
      fun value model => { model with post := value },
    .optional "header" (.nullable HeaderOptions.format.codec) Option.isNone header
      fun value model => { model with header := value }]
where
  /-- The entries of a vector. -/
  formulas : Codec (List Formula) := .list Formula.codec
  /-- The rows of a Jacobian. -/
  jacobian : Codec (Option (List (List Formula))) := .nullable (.list (.list Formula.codec))

/-- The model that a text is. -/
def ofText (text : String) : Except ModelError FilterModel :=
  match format.codec.readText text with
  | .error fault => .error (.json fault)
  | .ok model =>
    if supportedSchemas.contains model.schema then .ok model
    else .error (.unsupportedSchema model.schema)

/-- The text of a model file. -/
def toText (model : FilterModel) : String :=
  (format.codec.write model).pretty

end FilterModel

end KalmanHeader
