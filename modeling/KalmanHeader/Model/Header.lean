import KalmanHeader.Header.Output
import KalmanHeader.Model.Encoding
import KalmanHeader.Model.Spec

/-!
# From model files to headers

The text of a model file is read, the filter that it describes is composed into
a header, and the header may be written to a file. What goes wrong first ends
it: the text, then the formulas, then the header, then the disk.
-/

namespace KalmanHeader

/-- Why there is no header for a model file. -/
inductive GenerationError where
  | model (error : ModelError)
  | spec (error : SpecError)
  | header (error : HeaderError)
  | unwritable
  deriving Repr

namespace FilterModel

/-- The header of a model, named for the model. -/
def compose (model : FilterModel) : Except GenerationError GeneratedHeader := do
  let spec ← model.toSpec.mapError .spec
  (spec.compose model.headerOptions model.fileName).mapError .header

/-- The header of the model that a text is. -/
def generateHeader (text : String) : Except GenerationError GeneratedHeader := do
  let model ← (ofText text).mapError .model
  model.compose

/-- Writes the header of the model that a text is, and gives the disk
afterwards. The header is named for the path. -/
def writeHeader (text : String) (mark : String) (path : Path) (faults : FaultPattern)
    (disk : Disk) : Except GenerationError GeneratedHeader × Disk :=
  match ofText text with
  | .error error => (.error (.model error), disk)
  | .ok model =>
    match model.toSpec with
    | .error error => (.error (.spec error), disk)
    | .ok spec =>
      match spec.output model.headerOptions mark path faults disk with
      | (.ok header, disk') => (.ok header, disk')
      | (.error (.header error), disk') => (.error (.header error), disk')
      | (.error .unwritable, disk') => (.error .unwritable, disk')

end FilterModel

end KalmanHeader
