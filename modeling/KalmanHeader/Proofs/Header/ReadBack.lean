import KalmanHeader.Proofs.Calculus.Symbols
import KalmanHeader.Proofs.Constants.Resolution
import KalmanHeader.Proofs.Expr.Grid
import KalmanHeader.Proofs.Expr.SymbolSets
import KalmanHeader.Proofs.Header.Declarations
import KalmanHeader.Proofs.Header.Success

/-!
# Reading the description out of a header

A description means arrays: what stands at each place of them once the constants are
expanded and the Jacobians are computed. Whatever header is composed for it, a
reader finds these arrays in the text.
-/

namespace KalmanHeader

/-- An array as a description means it. -/
structure MeantArray where
  name : String
  size : Nat
  /-- Whether an expression is the element at a place. -/
  IsElement : Nat → Expr Float → Prop

namespace MeantArray

/-- Whether all elements hold only finite literals. -/
def IsFinite (meant : MeantArray) : Prop :=
  ∀ place < meant.size, ∀ tree, meant.IsElement place tree → tree.HasFiniteLiterals

/-- Whether an array that was read is the meant one up to collapsed negations. An array
without elements is read as a single zero. -/
structure IsRead (meant : MeantArray) (read : String × List (Expr Float)) : Prop where
  name : read.1 = meant.name
  length : read.2.length = max meant.size 1
  element : ∀ place < meant.size, ∃ tree found, meant.IsElement place tree ∧
    read.2[place]? = some found ∧ found.same tree.collapseNegations = true
  placeholder : meant.size = 0 → read.2 = [.literal 0.0]

/-- Whether an array of the function is the meant one. -/
structure IsGiven (meant : MeantArray) (output : OutputArray) : Prop where
  name : output.name = meant.name
  size : output.array.size = meant.size
  /-- There are as many elements to copy. -/
  copied : output.size = meant.size
  element : ∀ place tree, output.array.rowMajor[place]? = some tree ↔ meant.IsElement place tree

end MeantArray

namespace HeaderSpec

/-- Whether `tree` is the entry of a Jacobian in a row and a column: the supplied one with
the constants expanded, or else the partial derivative of the output of that row with the
constants expanded by the symbol of that column. -/
def IsJacobianCell (constants : Constants Float) (state : List String)
    (supplied : Option (Grid (Expr Float))) (outputs : List (Expr Float)) (row column : Nat)
    (tree : Expr Float) : Prop :=
  match supplied with
  | some grid => ∃ source, grid.cell? row column = some source ∧ constants.Expands source tree
  | none => ∃ output name expanded, outputs[row]? = some output ∧ state[column]? = some name ∧
      constants.Expands output expanded ∧ tree = expanded.diff name

/-- A vector with the constants expanded. -/
def meantVector (constants : Constants Float) (name : String) (exprs : List (Expr Float)) :
    MeantArray where
  name := name
  size := exprs.length
  IsElement place tree :=
    ∃ source, exprs[place]? = some source ∧ constants.Expands source tree

/-- A Jacobian row by row. -/
def meantJacobian (constants : Constants Float) (state : List String) (name : String)
    (supplied : Option (Grid (Expr Float))) (outputs : List (Expr Float)) : MeantArray where
  name := name
  size := outputs.length * state.length
  IsElement place :=
    IsJacobianCell constants state supplied outputs (place / state.length) (place % state.length)

/-- A further array with the constants expanded, row by row. -/
def meantPost (constants : Constants Float) (entry : String × ExprArray Float) : MeantArray where
  name := entry.1
  size := entry.2.shape.1 * entry.2.shape.2
  IsElement place tree :=
    ∃ source, entry.2.cell? (place / entry.2.shape.2) (place % entry.2.shape.2) = some source ∧
      constants.Expands source tree

/-- The arrays that a description means, where `state` are the names of its state
symbols. -/
def meantArrays (spec : HeaderSpec) (state : List String) : List MeantArray :=
  [meantVector spec.constants "fx" spec.transition,
    meantJacobian spec.constants state "F" spec.transitionJacobian spec.transition,
    meantVector spec.constants "hx" spec.observation,
    meantJacobian spec.constants state "H" spec.observationJacobian spec.observation] ++
    spec.post.map (meantPost spec.constants)

end HeaderSpec

/-- A Jacobian has a row for each output and a column for each symbol of the state. -/
theorem HeaderSpec.shape_jacobianBy {substitution : Substitution Float} {state : List String}
    {supplied : Option (Grid (Expr Float))} {outputs : List (Expr Float)}
    (shaped : ∀ grid ∈ supplied, grid.shape = (outputs.length, state.length)) :
    (jacobianBy state (supplied.map (Grid.map substitution.apply))
      (outputs.map substitution.apply)).shape = (outputs.length, state.length) := by
  cases supplied with
  | none =>
    refine (Grid.shape_tabulate _ _ _).trans ?_
    rw [List.length_map]
  | some grid => exact (Grid.shape_map _ grid).trans (shaped grid rfl)

section Given

open HeaderSpec

variable {constants : Constants Float} {substitution : Substitution Float} {state : List String}
  {size : Nat} {extents : List Extent}
  (resolved : Substitution.ofConstants constants = .ok substitution)

include resolved

/-- What is found after the constants are substituted is what something found before stands
for. -/
theorem map_apply_eq_some_iff (found : Option (Expr Float)) (tree : Expr Float) :
    found.map substitution.apply = some tree ↔
      ∃ source, found = some source ∧ constants.Expands source tree := by
  simp only [Option.map_eq_some_iff, Substitution.expands_iff resolved]

/-- A vector with the constants substituted is given. -/
theorem isGiven_vector (name : String) {exprs : List (Expr Float)} (sized : size = exprs.length) :
    (meantVector constants name exprs).IsGiven
      ⟨name, .vector (exprs.map substitution.apply), size, extents⟩ where
  name := rfl
  size := List.length_map _
  copied := sized
  element place tree := by
    rw [ExprArray.rowMajor, List.getElem?_map, map_apply_eq_some_iff resolved, meantVector]

/-- An entry of a Jacobian, whether it is supplied or computed. -/
theorem cell?_jacobianBy_eq_some_iff (supplied : Option (Grid (Expr Float)))
    (outputs : List (Expr Float)) (row column : Nat) (tree : Expr Float) :
    (jacobianBy state (supplied.map (Grid.map substitution.apply))
      (outputs.map substitution.apply)).cell? row column = some tree ↔
        IsJacobianCell constants state supplied outputs row column tree := by
  cases supplied with
  | none =>
    have cell : (jacobianBy state none (outputs.map substitution.apply)).cell? row column = _ :=
      Grid.cell?_tabulate _ _ _ row column
    rw [Option.map_none, cell, List.getElem?_map, IsJacobianCell]
    simp only [Option.bind_eq_some_iff, Option.map_eq_some_iff, Substitution.expands_iff resolved]
    constructor
    · rintro ⟨_, ⟨output, found, rfl⟩, name, listed, rfl⟩
      exact ⟨output, name, _, found, listed, rfl, rfl⟩
    · rintro ⟨output, name, _, found, listed, rfl, rfl⟩
      exact ⟨_, ⟨output, found, rfl⟩, name, listed, rfl⟩
  | some grid =>
    refine Eq.congr_left (Grid.cell?_map _ grid row column) |>.trans ?_
    exact map_apply_eq_some_iff resolved _ tree

/-- A Jacobian is given row by row. -/
theorem isGiven_jacobian (name : String) {supplied : Option (Grid (Expr Float))}
    {outputs : List (Expr Float)} (sized : size = outputs.length * state.length)
    (shaped : ∀ grid ∈ supplied, grid.shape = (outputs.length, state.length)) :
    (meantJacobian constants state name supplied outputs).IsGiven
      ⟨name, .matrix (jacobianBy state (supplied.map (Grid.map substitution.apply))
        (outputs.map substitution.apply)), size, extents⟩ where
  name := rfl
  size := by
    refine (Grid.length_rowMajor _).trans ?_
    rw [shape_jacobianBy shaped]
    rfl
  copied := sized
  element place tree := by
    obtain ⟨_, columns⟩ := Prod.mk.inj (@shape_jacobianBy substitution _ _ _ shaped)
    rw [ExprArray.rowMajor, Grid.getElem?_rowMajor, columns,
      cell?_jacobianBy_eq_some_iff resolved, meantJacobian]

/-- A further array with the constants substituted is given. -/
theorem isGiven_post {entry : String × ExprArray Float} (sized : size = entry.2.size) :
    (meantPost constants entry).IsGiven
      ⟨entry.1, entry.2.map substitution.apply, size, extents⟩ where
  name := rfl
  size := by
    rw [ExprArray.size_eq, ExprArray.shape_map]
    rfl
  copied := sized.trans entry.2.size_eq
  element place tree := by
    rw [ExprArray.getElem?_rowMajor, ExprArray.cell?_map, ExprArray.shape_map,
      map_apply_eq_some_iff resolved, meantPost]

end Given

section Read

variable {meant : MeantArray} {output : OutputArray}

/-- The literal zero in place of no element is read as that literal. -/
theorem reread_zero : C.reread (.literal 0.0) = .literal 0.0 := by
  have zero : C.rereadLiteral 0.0 = 0.0 := by decide
  rw [C.reread, zero]

/-- What is read of a given array with finite literals is the meant one. -/
theorem MeantArray.IsGiven.isRead (given : meant.IsGiven output) (finite : meant.IsFinite) :
    meant.IsRead (output.name, output.array.written.map C.reread) where
  name := given.name
  length := by
    rw [List.length_map, ExprArray.written]
    have size := given.size
    split
    · simp; omega
    · unfold ExprArray.size at *
      omega
  element place within := by
    have size := given.size
    have listed : output.array.written = output.array.rowMajor := by
      rw [ExprArray.written, if_neg (by omega)]
    have present : place < output.array.rowMajor.length := by
      rw [ExprArray.size] at size
      omega
    have element := (given.element place _).1 (List.getElem?_eq_getElem present)
    refine ⟨_, _, element, ?_, (C.same_reread (finite place within _ element)).2⟩
    rw [listed, List.getElem?_map, List.getElem?_eq_getElem present]
    rfl
  placeholder := by
    intro empty
    rw [ExprArray.written, if_pos (given.size.trans empty), List.map_singleton, reread_zero]

/-- What is read of given arrays with finite literals are the meant ones. -/
theorem forall₂_isRead {meants : List MeantArray} {outputs : List OutputArray}
    (given : List.Forall₂ MeantArray.IsGiven meants outputs)
    (finite : ∀ meant ∈ meants, meant.IsFinite) :
    List.Forall₂ MeantArray.IsRead meants
      (outputs.map fun output => (output.name, output.array.written.map C.reread)) := by
  induction given with
  | nil => exact .nil
  | cons first _ ih =>
    obtain ⟨head, tail⟩ := List.forall_mem_cons.1 finite
    exact .cons (first.isRead head) (ih tail)

/-- A meant array holds only finite literals when the given one does. -/
theorem MeantArray.IsGiven.isFinite_iff (given : meant.IsGiven output) :
    meant.IsFinite ↔ ∀ expr ∈ output.array.rowMajor, expr.HasFiniteLiterals := by
  constructor
  · intro finite expr member
    obtain ⟨place, found⟩ := List.mem_iff_getElem?.1 member
    have within : place < output.array.size := (List.getElem?_eq_some_iff.1 found).1
    exact finite place (given.size ▸ within) expr ((given.element place expr).1 found)
  · intro finite place _ tree element
    exact finite tree (List.mem_of_getElem? ((given.element place tree).2 element))

/-- Meant arrays hold only finite literals when the given ones do. -/
theorem isFinite_iff_of_forall₂ {meants : List MeantArray} {outputs : List OutputArray}
    (given : List.Forall₂ MeantArray.IsGiven meants outputs) :
    (∀ meant ∈ meants, meant.IsFinite) ↔
      ∀ output ∈ outputs, ∀ expr ∈ output.array.rowMajor, expr.HasFiniteLiterals := by
  induction given with
  | nil => simp
  | cons first _ ih => rw [List.forall_mem_cons, List.forall_mem_cons, ih, first.isFinite_iff]

end Read

section Names

open Reader

namespace HeaderSpec

variable {spec : HeaderSpec} {state : List String}

/-- Whether a symbol occurs in the arrays of a description. -/
def Mentions (spec : HeaderSpec) (name : String) : Prop :=
  ∃ expr ∈ spec.exprs, expr.contains name

/-- A Jacobian has no symbols but those of the supplied one, or else of the outputs. -/
theorem symbolsIn_jacobianBy {allowed : String → Prop} {supplied : Option (Grid (Expr Float))}
    {outputs : List (Expr Float)}
    (given : ∀ expr ∈ (supplied.map Grid.rowMajor).getD [], expr.SymbolsIn allowed)
    (inner : ∀ expr ∈ outputs, expr.SymbolsIn allowed) :
    ∀ expr ∈ (jacobianBy state supplied outputs).rowMajor, expr.SymbolsIn allowed := by
  cases supplied with
  | some grid => exact given
  | none =>
    intro expr member
    obtain ⟨output, found, name, _, rfl⟩ := Grid.mem_rowMajor_tabulate.1 member
    exact Expr.symbolsIn_diff name (inner output found)

/-- The arrays of the function have no symbols but those of the description. -/
theorem symbolsIn_outputs (spec : HeaderSpec) (state : List String) :
    ∀ output ∈ spec.outputs (jacobianBy state spec.transitionJacobian spec.transition)
        (jacobianBy state spec.observationJacobian spec.observation),
      ∀ expr ∈ output.array.rowMajor, expr.SymbolsIn spec.Mentions := by
  have mentioned : ∀ expr ∈ spec.exprs, expr.SymbolsIn spec.Mentions :=
    fun expr member name found => ⟨expr, member, found⟩
  simp only [exprs, List.forall_mem_append] at mentioned
  obtain ⟨⟨⟨⟨transition, observation⟩, supplied⟩, supplied'⟩, post⟩ := mentioned
  simp only [outputs, List.forall_mem_append, List.forall_mem_cons, List.forall_mem_map]
  refine ⟨⟨transition, symbolsIn_jacobianBy supplied transition, observation,
    symbolsIn_jacobianBy supplied' observation, List.forall_mem_nil _⟩, fun entry member => ?_⟩
  exact fun expr found => post expr (List.mem_flatMap.2 ⟨entry, member, found⟩)

/-- The parameters are the symbols of the arrays besides those of the state. -/
theorem mem_parameters {name : String} :
    name ∈ spec.parameters state ↔ spec.Mentions name ∧ name ∉ state := by
  rw [parameters, NameSet.mem_filter, Expr.mem_symbolsOfAll]
  simp only [List.contains_eq_mem, Bool.not_eq_true', decide_eq_false_iff_not]
  rfl

/-- A symbol of a description whose names are claimed can be told from the state. -/
theorem readable_of_claim {options : HeaderOptions} {guard : String} {arrays : List String}
    (claimed : DeclaredName.claim reservedNames
      (DeclaredName.all options guard arrays (spec.parameters state).toList) = .ok ()) :
    ∀ name, spec.Mentions name → Readable state name := by
  obtain ⟨identifiers, _, free⟩ := DeclaredName.claim_eq_ok.1 claimed
  intro name mentioned
  by_cases member : name ∈ state
  · exact .inl member
  · have parameter : name ∈ spec.parameters state := mem_parameters.2 ⟨mentioned, member⟩
    have declared : ⟨name, true⟩ ∈
        DeclaredName.all options guard arrays (spec.parameters state).toList :=
      List.mem_append_right _ (List.mem_map.2 ⟨name, parameter, rfl⟩)
    refine .inr ⟨(Bool.and_eq_true_iff.1 (identifiers _ declared rfl)).1, ?_⟩
    -- The name of the state array is reserved, so no parameter has it.
    rintro rfl
    exact free _ declared (by decide)

/-- The arrays of a description whose names are claimed have words as names. -/
theorem isWord_outputs {options : HeaderOptions} {guard : String} {parameters : List String}
    (claimed : DeclaredName.claim reservedNames
      (DeclaredName.all options guard (spec.post.map Prod.fst) parameters) = .ok ())
    (transitionJacobian observationJacobian : Grid (Expr Float)) :
    ∀ output ∈ spec.outputs transitionJacobian observationJacobian, C.isWord output.name.toList := by
  obtain ⟨identifiers, _⟩ := DeclaredName.claim_eq_ok.1 claimed
  simp only [outputs, List.forall_mem_append, List.forall_mem_cons, List.forall_mem_map]
  refine ⟨⟨by decide, by decide, by decide, by decide, List.forall_mem_nil _⟩, fun entry member => ?_⟩
  have declared : ⟨entry.1, true⟩ ∈
      DeclaredName.all options guard (spec.post.map Prod.fst) parameters := by
    refine List.mem_append_left _ (List.mem_append_right _ (List.mem_flatMap.2 ?_))
    exact ⟨entry.1, List.mem_map_of_mem member, List.mem_cons_self⟩
  exact (Bool.and_eq_true_iff.1 (identifiers _ declared rfl)).1

end HeaderSpec

end Names

namespace HeaderSpec

variable {spec : HeaderSpec} {options : HeaderOptions} {fileName : String}

/-- The entries of a state stand for symbols when these are left of them once the constants
are substituted. -/
theorem forall₂_expands_iff {substitution : Substitution Float} {state : List String}
    (resolved : Substitution.ofConstants spec.constants = .ok substitution) :
    List.Forall₂ (fun expr name => spec.constants.Expands expr (.symbol name)) spec.state state ↔
      spec.state.map substitution.apply = state.map .symbol := by
  simp only [Substitution.expands_iff resolved]
  rw [← List.forall₂_eq_eq_eq, List.forall₂_map_left_iff, List.forall₂_map_right_iff]

/-- The arrays of the function are those that the description means. -/
theorem forall₂_isGiven {substitution : Substitution Float} {state : List String}
    (fitting : spec.checkDimensions = .ok ())
    (resolved : Substitution.ofConstants spec.constants = .ok substitution)
    (symbols : spec.state.map substitution.apply = state.map .symbol) :
    List.Forall₂ MeantArray.IsGiven (spec.meantArrays state)
      ((spec.substituted substitution).outputs
        (jacobianBy state (spec.substituted substitution).transitionJacobian
          (spec.substituted substitution).transition)
        (jacobianBy state (spec.substituted substitution).observationJacobian
          (spec.substituted substitution).observation)) := by
  obtain ⟨length, shaped, shaped'⟩ := checkDimensions_eq_ok.1 fitting
  have states : (spec.substituted substitution).state.length = state.length :=
    (congrArg List.length symbols).trans (List.length_map _)
  have observations : (spec.substituted substitution).observation.length =
      spec.observation.length := List.length_map _
  have size : spec.state.length = state.length := (List.length_map _).symm.trans states
  rw [size] at length shaped shaped'
  have post : List.Forall₂ MeantArray.IsGiven (spec.post.map (meantPost spec.constants))
      ((spec.substituted substitution).post.map .ofPost) := by
    rw [substituted, List.map_map, List.forall₂_map_left_iff, List.forall₂_map_right_iff,
      List.forall₂_same]
    exact fun entry _ => isGiven_post resolved (ExprArray.size_map _ entry.2)
  refine .cons (isGiven_vector resolved "fx" ?_) (.cons (isGiven_jacobian resolved "F" ?_ ?_)
    (.cons (isGiven_vector resolved "hx" observations)
      (.cons (isGiven_jacobian resolved "H" ?_ shaped') post)))
  · rw [states, length]
  · rw [states, length]
  · exact length ▸ shaped
  · rw [states, observations]

/-- Reading the arrays out of a composed header gives what the description means. -/
theorem arrays_of_compose {header : GeneratedHeader}
    (composed : spec.compose options fileName = .ok header) :
    ∃ state, List.Forall₂ (fun expr name => spec.constants.Expands expr (.symbol name))
        spec.state state ∧
      ((∀ meant ∈ spec.meantArrays state, meant.IsFinite) →
        ∃ arrays, Reader.arrays? state header.text = some arrays ∧
          List.Forall₂ MeantArray.IsRead (spec.meantArrays state) arrays) := by
  obtain ⟨checked, fitting, substitution, layout, resolved, laidOut, rfl⟩ := compose_eq_ok.1 composed
  obtain ⟨state, named, claimed, same⟩ := layout_eq_ok.1 laidOut
  obtain ⟨symbols, distinct, _⟩ := stateNamesFrom_eq_ok.1 named
  have given := forall₂_isGiven fitting resolved symbols
  -- The layout stays a variable: the reader only depends on three of its fields.
  have outputs := congrArg HeaderLayout.outputs same
  have states : layout.state = state := congrArg HeaderLayout.state same
  have guard : layout.guard = options.guardFor fileName := congrArg HeaderLayout.guard same
  refine ⟨state, (forall₂_expands_iff resolved).2 symbols, fun finite => ?_⟩
  have guarded : '\n' ∉ layout.guard.toList := by
    rw [guard]
    intro member
    have part := C.isWordPart_of_isWord (options.isWord_guardFor checked fileName) _ member
    exact absurd part (by decide)
  have legible : ∀ output ∈ layout.outputs, Reader.Legible layout.state output := by
    rw [outputs, states]
    intro output member
    exact {
      word := isWord_outputs claimed _ _ output member
      finite := (isFinite_iff_of_forall₂ given).1 finite output member
      readable := fun expr listed name found => readable_of_claim claimed name
        (symbolsIn_outputs _ state output member expr listed name found) }
  have read := Reader.arrays?_text (states ▸ distinct) legible guarded
  rw [states, outputs] at read
  exact ⟨_, read, forall₂_isRead given finite⟩

/-- A point that moves with a constant speed. Its place is observed with a gain. -/
def uniformMotion : HeaderSpec where
  state := [.symbol "p", .symbol "v"]
  transition := [.add (.symbol "p") (.mul (.symbol "dt") (.symbol "v")), .symbol "v"]
  observation := [.mul (.symbol "gain") (.symbol "p")]
  transitionJacobian := none
  observationJacobian := none
  constants := .ofList [("dt", .div (.symbol "step") (.literal 2)), ("step", .literal 0.25)]
  post := [("none", .vector []), ("q", .vector [.neg (.literal 1), .symbol "v"])]

/-- The constants of uniform motion, resolved. -/
def uniformMotionConstants : Substitution Float :=
  ⟨[("dt", .div (.literal 0.25) (.literal 2)), ("step", .literal 0.25)]⟩

/-- The constants of uniform motion are resolved one through the other. -/
theorem ofConstants_uniformMotion :
    Substitution.ofConstants uniformMotion.constants = .ok uniformMotionConstants := by
  -- The literals are variables here, so that no double is taken apart.
  have resolved : ∀ divisor step : Float,
      Substitution.ofConstants
          (.ofList [("dt", .div (.symbol "step") (.literal divisor)), ("step", .literal step)]) =
        .ok ⟨[("dt", .div (.literal step) (.literal divisor)), ("step", .literal step)]⟩ := by
    intro divisor step
    cbv
  exact resolved 2 0.25

/-- Uniform motion has a header. -/
theorem exists_compose_uniformMotion :
    ∃ header, uniformMotion.compose .standard "model.h" = .ok header := by
  have named : (uniformMotion.substituted uniformMotionConstants).stateNames = .ok ["p", "v"] := rfl
  obtain ⟨header, composed, _⟩ := @exists_compose_of_claim uniformMotion .standard "model.h" _ _
    (by decide) (by decide) ofConstants_uniformMotion named (by decide)
  exact ⟨header, composed⟩

/-- The arrays of uniform motion hold only finite literals. -/
theorem isFinite_meantArrays_uniformMotion :
    ∀ meant ∈ uniformMotion.meantArrays ["p", "v"], meant.IsFinite := by
  have given := @forall₂_isGiven uniformMotion uniformMotionConstants ["p", "v"] (by decide)
    ofConstants_uniformMotion rfl
  exact (isFinite_iff_of_forall₂ given).2 (by decide)

/-- The entries of the state of uniform motion stand for themselves. -/
theorem eq_of_forall₂_uniformMotion {state : List String}
    (symbols : List.Forall₂ (fun expr name => uniformMotion.constants.Expands expr (.symbol name))
      uniformMotion.state state) : ["p", "v"] = state :=
  List.map_injective_iff.2 (fun _ _ => Expr.symbol.inj)
    ((forall₂_expands_iff ofConstants_uniformMotion).1 symbols)

/-- The header of uniform motion is read back: two chained constants, computed Jacobians, a
free parameter, a negated literal and an array without elements. -/
theorem arrays_of_compose_of_uniformMotion :
    ∃ header, uniformMotion.compose .standard "model.h" = .ok header ∧
      ∃ arrays, Reader.arrays? ["p", "v"] header.text = some arrays ∧
        List.Forall₂ MeantArray.IsRead (uniformMotion.meantArrays ["p", "v"]) arrays := by
  obtain ⟨header, composed⟩ := exists_compose_uniformMotion
  obtain ⟨state, symbols, read⟩ := arrays_of_compose composed
  obtain rfl := eq_of_forall₂_uniformMotion symbols
  exact ⟨_, composed, read isFinite_meantArrays_uniformMotion⟩

end HeaderSpec

end KalmanHeader
