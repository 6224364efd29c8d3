import KalmanHeader.Header.Options
import KalmanHeader.Text.NameMap

/-!
# Filter models

A model is a filter as its author writes it down: expressions are still text, or
numbers, and may be wrong. Nothing about a model is checked beyond its form and
the version of its schema.
-/

namespace KalmanHeader

/-- A number, or the text of an expression. -/
inductive Formula where
  | number (value : Float)
  | text (source : String)
  deriving DecidableEq, Repr

/-- Formulas in a row, or rows of formulas of any lengths. -/
inductive FormulaArray where
  | vector (elements : List Formula)
  | matrix (rows : List (List Formula))
  deriving DecidableEq, Repr

/-- A further array of a model. -/
structure PostEntry where
  name : String
  data : FormulaArray
  deriving DecidableEq, Repr

/-- A filter as it is written down. -/
structure FilterModel where
  schema : String
  name : String
  description : Option String
  state : List String
  transition : List Formula
  observation : List Formula
  transitionJacobian : Option (List (List Formula))
  observationJacobian : Option (List (List Formula))
  constants : NameMap Formula
  post : List PostEntry
  header : Option HeaderOptions
  deriving DecidableEq

namespace FilterModel

/-- The versions of the schema that models may have. -/
def supportedSchemas : List String := ["1.0"]

/-- The options of the header of the model. -/
def headerOptions (model : FilterModel) : HeaderOptions :=
  model.header.getD .standard

/-- The file that the header is named for when it is not written to one. -/
def fileName (model : FilterModel) : String :=
  model.name ++ ".h"

end FilterModel

end KalmanHeader
