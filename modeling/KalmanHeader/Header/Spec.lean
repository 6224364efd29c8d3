import KalmanHeader.Header.Error

/-!
# Descriptions of a filter

A description holds the state, the transition and the observation of a filter as
expressions, and whatever else its header should offer. Constants are no part of
the mathematics: a description with constants means the one in which they have
been substituted.
-/

namespace KalmanHeader

/-- Everything a header is generated from. -/
structure HeaderSpec where
  /-- The state symbols in the order of the filter. -/
  state : List (Expr Float)
  /-- The state after a step. -/
  transition : List (Expr Float)
  /-- What is observed of a state. -/
  observation : List (Expr Float)
  /-- The Jacobian of the transition, if it is not to be computed. -/
  transitionJacobian : Option (Grid (Expr Float))
  /-- The Jacobian of the observation, if it is not to be computed. -/
  observationJacobian : Option (Grid (Expr Float))
  constants : Constants Float
  /-- Further arrays for the function to offer, in order. -/
  post : List (String × ExprArray Float)

namespace HeaderSpec

/-- The description of a filter without anything else. -/
def ofFilter (state transition observation : List (Expr Float)) : HeaderSpec :=
  ⟨state, transition, observation, none, none, .empty, []⟩

/-- The description with the symbols of all its expressions replaced, and no
constants. -/
def substituted (spec : HeaderSpec) (substitution : Substitution Float) : HeaderSpec where
  state := spec.state.map substitution.apply
  transition := spec.transition.map substitution.apply
  observation := spec.observation.map substitution.apply
  transitionJacobian := spec.transitionJacobian.map (Grid.map substitution.apply)
  observationJacobian := spec.observationJacobian.map (Grid.map substitution.apply)
  constants := .empty
  post := spec.post.map fun entry => (entry.1, entry.2.map substitution.apply)

/-- The expressions of the arrays whose symbols the function has to know. -/
def exprs (spec : HeaderSpec) : List (Expr Float) :=
  spec.transition ++ spec.observation ++
    (spec.transitionJacobian.map Grid.rowMajor).getD [] ++
    (spec.observationJacobian.map Grid.rowMajor).getD [] ++
    spec.post.flatMap fun entry => entry.2.rowMajor

/-- Checks a supplied Jacobian with the given name against the shape it has to
have. -/
def checkShape (name : String) (expected : Nat × Nat) (grid : Option (Grid (Expr Float))) :
    Except HeaderError Unit :=
  match grid with
  | none => .ok ()
  | some grid =>
    if grid.shape = expected then .ok () else .error (.wrongShape name expected grid.shape)

/-- Checks that the arrays of the filter fit together. -/
def checkDimensions (spec : HeaderSpec) : Except HeaderError Unit := do
  let states := spec.state.length
  if spec.transition.length ≠ states then
    throw (.wrongLength states spec.transition.length)
  checkShape "F" (states, states) spec.transitionJacobian
  checkShape "H" (spec.observation.length, states) spec.observationJacobian

/-- The names of state entries, which have to be symbols other than `seen`, where
`index` entries came before. -/
def stateNamesFrom (index : Nat) (seen : List String) :
    List (Expr Float) → Except HeaderError (List String)
  | [] => .ok []
  | expr :: exprs =>
    match expr.symbol? with
    | none => .error (.invalidTarget ⟨index, expr⟩)
    | some name =>
      if seen.contains name then .error (.duplicateSymbol name)
      else (stateNamesFrom (index + 1) (name :: seen) exprs).map (name :: ·)

/-- The names of the state symbols. -/
def stateNames (spec : HeaderSpec) : Except HeaderError (List String) :=
  stateNamesFrom 0 [] spec.state

/-- The symbols of the arrays besides those of the state. -/
def parameters (spec : HeaderSpec) (stateNames : List String) : NameSet :=
  (Expr.symbolsOfAll spec.exprs).filter fun name => !stateNames.contains name

end HeaderSpec

end KalmanHeader
