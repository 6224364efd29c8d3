import KalmanHeader.Expr.Parser
import KalmanHeader.Header.Spec
import KalmanHeader.Model.Basic

/-!
# From models to descriptions

The formulas of a model are parsed one after another: the state, the transition,
the observation, the supplied Jacobians row by row, the constants, and the
further arrays in order. The first that fails is the error, and the error knows
its place. Rows are compared once all of their formulas are parsed.
-/

namespace KalmanHeader

/-- An array of a model that holds formulas. -/
inductive ModelArray where
  | state | transition | observation | transitionJacobian | observationJacobian
  | post (name : String)
  deriving DecidableEq, Repr

/-- A place where a formula stands in a model. -/
inductive Place where
  | element (array : ModelArray) (index : Nat)
  | entry (array : ModelArray) (row column : Nat)
  | constant (name : String)
  deriving DecidableEq, Repr

/-- How messages name an array of a model. -/
def ModelArray.text : ModelArray → String
  | .state => "state"
  | .transition => "px"
  | .observation => "hx"
  | .transitionJacobian => "F"
  | .observationJacobian => "H"
  | .post name => "post." ++ name

/-- How messages name a place. -/
def Place.text : Place → String
  | .element array index => array.text ++ "[" ++ toString index ++ "]"
  | .entry array row column =>
    array.text ++ "[" ++ toString row ++ "][" ++ toString column ++ "]"
  | .constant name => "constants." ++ name

/-- Why a model describes no filter. -/
inductive SpecError where
  | invalidExpression (place : Place) (source : ExprError Float)
  | raggedRow (row : RaggedRow)
  deriving DecidableEq, Repr

/-- The text of the error in a model. -/
def SpecError.message : SpecError → String
  | .invalidExpression place source =>
    "Invalid expression in " ++ place.text ++ ": " ++ source.message
  | .raggedRow row => row.message

namespace Formula

/-- The expression that a formula at a place is. -/
def toExpr (place : Place) : Formula → Except SpecError (Expr Float)
  | .number value => .ok (.literal value)
  | .text source => (Expr.parse source).mapError (.invalidExpression place)

/-- The expressions of formulas, the first of which has the given index. -/
def toExprsFrom (place : Nat → Place) (index : Nat) :
    List Formula → Except SpecError (List (Expr Float))
  | [] => .ok []
  | formula :: formulas =>
    match formula.toExpr (place index) with
    | .error error => .error error
    | .ok expr => (toExprsFrom place (index + 1) formulas).map (expr :: ·)

/-- The expressions of the elements of an array. -/
def toExprs (array : ModelArray) (formulas : List Formula) :
    Except SpecError (List (Expr Float)) :=
  toExprsFrom (.element array) 0 formulas

/-- The expressions of rows, the first of which has the given index. -/
def toRowsFrom (array : ModelArray) (index : Nat) :
    List (List Formula) → Except SpecError (List (List (Expr Float)))
  | [] => .ok []
  | row :: rows =>
    match toExprsFrom (.entry array index) 0 row with
    | .error error => .error error
    | .ok exprs => (toRowsFrom array (index + 1) rows).map (exprs :: ·)

/-- The grid of the expressions of rows. -/
def toGrid (array : ModelArray) (rows : List (List Formula)) :
    Except SpecError (Grid (Expr Float)) :=
  match toRowsFrom array 0 rows with
  | .error error => .error error
  | .ok exprs => (Grid.ofRows exprs).mapError .raggedRow

/-- The grid of a Jacobian, if it is supplied. -/
def toJacobian (array : ModelArray) (rows : Option (List (List Formula))) :
    Except SpecError (Option (Grid (Expr Float))) :=
  match rows with
  | none => .ok none
  | some rows => (toGrid array rows).map some

/-- The constants that formulas are the values of, parsed in the order given. -/
def toConstants (constants : Constants Float) :
    List (String × Formula) → Except SpecError (Constants Float)
  | [] => .ok constants
  | (name, formula) :: entries =>
    match formula.toExpr (.constant name) with
    | .error error => .error error
    | .ok expr => toConstants (constants.insert name expr) entries

end Formula

/-- The array that a further array of a model is. -/
def FormulaArray.toExprArray (array : ModelArray) :
    FormulaArray → Except SpecError (ExprArray Float)
  | .vector elements => (Formula.toExprs array elements).map .vector
  | .matrix rows => (Formula.toGrid array rows).map .matrix

/-- The further arrays of a model. -/
def PostEntry.toExprArrays :
    List PostEntry → Except SpecError (List (String × ExprArray Float))
  | [] => .ok []
  | entry :: entries =>
    match entry.data.toExprArray (.post entry.name) with
    | .error error => .error error
    | .ok array => (toExprArrays entries).map ((entry.name, array) :: ·)

namespace FilterModel

/-- The description of the filter of a model, where the constants are parsed in
the order of `entries`. -/
def toSpecInOrder (model : FilterModel) (entries : List (String × Formula)) :
    Except SpecError HeaderSpec := do
  let state ← Formula.toExprs .state (model.state.map .text)
  let transition ← Formula.toExprs .transition model.transition
  let observation ← Formula.toExprs .observation model.observation
  let transitionJacobian ← Formula.toJacobian .transitionJacobian model.transitionJacobian
  let observationJacobian ← Formula.toJacobian .observationJacobian model.observationJacobian
  let constants ← Formula.toConstants .empty entries
  let post ← PostEntry.toExprArrays model.post
  return {
    state, transition, observation, transitionJacobian, observationJacobian, constants, post }

/-- The description of the filter of a model. -/
def toSpec (model : FilterModel) : Except SpecError HeaderSpec :=
  model.toSpecInOrder model.constants.entries

end FilterModel

end KalmanHeader
