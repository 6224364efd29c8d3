import KalmanHeader.Header.Layout

/-!
# Composing headers

A header is composed from a description in memory. Constants are substituted
before anything else looks at the arrays; then the names are settled, since
differentiation brings no new symbols; a Jacobian that is not supplied is
computed last. The checks come in this order, and the first that fails is the
error.
-/

namespace KalmanHeader

/-- A header as it is handed out. -/
structure GeneratedHeader where
  text : String
  /-- The number of state symbols. -/
  stateDimension : Nat
  /-- The number of observations. -/
  observationDimension : Nat
  /-- The names of the free parameters in the order of the signature. -/
  parameters : List String
  deriving DecidableEq, Repr

/-- A further array of the function. -/
def OutputArray.ofPost (entry : String × ExprArray Float) : OutputArray where
  name := entry.1
  array := entry.2
  size := entry.2.size
  extents := [.fixed (max entry.2.size 1)]

/-- The header with the given layout. -/
def HeaderLayout.generate (layout : HeaderLayout) : GeneratedHeader where
  text := layout.text
  stateDimension := layout.state.length
  observationDimension := layout.observationCount
  parameters := layout.parameters.toList

namespace HeaderSpec

/-- The supplied Jacobian, or else that of `outputs` by the state. -/
def jacobianOr (spec : HeaderSpec) (supplied : Option (Grid (Expr Float)))
    (outputs : List (Expr Float)) : Except HeaderError (Grid (Expr Float)) :=
  match supplied with
  | some grid => .ok grid
  | none => (jacobian outputs spec.state).mapError .invalidTarget

/-- The arrays of the function, given the Jacobians. -/
def outputs (spec : HeaderSpec) (transitionJacobian observationJacobian : Grid (Expr Float)) :
    List OutputArray :=
  let states := spec.state.length
  let observations := spec.observation.length
  let stateExtent := Extent.ofSize .state states
  let observationExtent := Extent.ofSize .observation observations
  [⟨"fx", .vector spec.transition, states, [stateExtent]⟩,
    ⟨"F", .matrix transitionJacobian, states * states, [stateExtent, stateExtent]⟩,
    ⟨"hx", .vector spec.observation, observations, [observationExtent]⟩,
    ⟨"H", .matrix observationJacobian, observations * states,
      [observationExtent, stateExtent]⟩] ++
    spec.post.map .ofPost

/-- The layout of the header for a description without constants. -/
def layout (spec : HeaderSpec) (options : HeaderOptions) (fileName : String) :
    Except HeaderError HeaderLayout := do
  let state ← spec.stateNames
  let parameters := spec.parameters state
  let guard := options.guardFor fileName
  DeclaredName.claim reservedNames
    (DeclaredName.all options guard (spec.post.map Prod.fst) parameters.toList)
  let transitionJacobian ← spec.jacobianOr spec.transitionJacobian spec.transition
  let observationJacobian ← spec.jacobianOr spec.observationJacobian spec.observation
  return {
    fileName, options, guard, state, parameters
    observationCount := spec.observation.length
    outputs := spec.outputs transitionJacobian observationJacobian }

/-- The header for a description. The name of its file is only mentioned in it. -/
def compose (spec : HeaderSpec) (options : HeaderOptions) (fileName : String) :
    Except HeaderError GeneratedHeader := do
  options.check
  spec.checkDimensions
  let substitution ← (Substitution.ofConstants spec.constants).mapError .cyclicConstant
  let layout ← (spec.substituted substitution).layout options fileName
  return layout.generate

end HeaderSpec

end KalmanHeader
