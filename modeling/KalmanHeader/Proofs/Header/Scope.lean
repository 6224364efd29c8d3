import KalmanHeader.Proofs.Constants.Meaning
import KalmanHeader.Proofs.Header.Arguments
import KalmanHeader.Proofs.Header.ReadBack
import KalmanHeader.Proofs.Header.References

/-!
# The names that a function uses

The parameters of a function are collected before its Jacobians are computed, from other
trees than those that are written. This is no loss: substituting leaves no constant,
differentiating brings no new symbol, and every tree that symbols are collected from is
written. So whatever symbol an array has is an entry of the state or an argument, and
every argument for a symbol is there for some array.
-/

namespace KalmanHeader

namespace HeaderSpec

/-- The arrays of the function, where the Jacobians that are not supplied are computed. -/
def arrays (spec : HeaderSpec) (state : List String) : List OutputArray :=
  spec.outputs (jacobianBy state spec.transitionJacobian spec.transition)
    (jacobianBy state spec.observationJacobian spec.observation)

end HeaderSpec

section Declared

/-- Whether a reference for the symbol `name` is to something that a header declares: to the
entry of `x` at the place of the symbol in the state, or to a parameter. -/
def GeneratedHeader.Declares (header : GeneratedHeader) (state : List String) (name : String)
    (reference : Reader.Reference) : Prop :=
  (∃ place < header.stateDimension, state[place]? = some name ∧ reference = ⟨"x", some place⟩) ∨
    (name ∈ header.parameters ∧ reference = ⟨name, none⟩)

/-- Whether the names in a text are those of the symbols of an expression, all of them declared,
and besides them only names of the C library. -/
structure GeneratedHeader.RefersTo (header : GeneratedHeader) (state : List String)
    (tree : Expr Float) (text : List Char) : Prop where
  declared : ∀ name, tree.contains name →
    ∃ reference ∈ Reader.references text, header.Declares state name reference
  known : ∀ reference ∈ Reader.references text,
    (reference.name ∈ C.mathNames ∧ reference.subscript = none) ∨
      ∃ name, tree.contains name ∧ header.Declares state name reference

/-- Whether the texts that a header lists under a name refer to the symbols of a meant array. -/
structure MeantArray.IsListed (header : GeneratedHeader) (state : List String)
    (meant : MeantArray) (listed : String × List (List Char)) : Prop where
  name : listed.1 = meant.name
  length : listed.2.length = max meant.size 1
  element : ∀ place < meant.size, ∃ tree text, meant.IsElement place tree ∧
    listed.2[place]? = some text ∧ header.RefersTo state tree text
  placeholder : meant.size = 0 → ∀ text ∈ listed.2, Reader.references text = []

/-- Whether a header lists the arrays of a description with the symbols `state` and declares
every name that they refer to, and no parameter without need. -/
structure HeaderSpec.DeclaresSymbols (spec : HeaderSpec) (state : List String)
    (header : GeneratedHeader) : Prop where
  rendered : List.Forall₂ (MeantArray.IsListed header state) (spec.meantArrays state)
    (Reader.initializers header.text)
  /-- One argument declares the array of the state. -/
  entries : ∃ extent, ((Reader.arguments header.text).filter fun argument =>
    Reader.argumentName argument == "x") = ["const double x[" ++ extent ++ "]"]
  increasing : header.parameters.Pairwise (· < ·)
  noState : ∀ name ∈ header.parameters, name ∉ state
  noConstant : ∀ name ∈ header.parameters, ¬spec.constants.contains name
  occurs : ∀ name ∈ header.parameters, ∃ listed ∈ Reader.initializers header.text,
    ∃ text ∈ listed.2, ⟨name, none⟩ ∈ Reader.references text
  /-- One argument declares the name of a parameter, and it is a double. -/
  argument : ∀ name ∈ header.parameters,
    (Reader.arguments header.text).filter (fun argument => Reader.argumentName argument == name) =
      ["double " ++ name]

end Declared

namespace HeaderSpec

variable {spec : HeaderSpec} {options : HeaderOptions} {fileName guard : String}
  {state parameters : List String} {substitution : Substitution Float} {header : GeneratedHeader}

section Symbols

/-- Every expression of a description is an element of some array. -/
theorem exists_array_of_mem_exprs (state : List String) {expr : Expr Float}
    (member : expr ∈ spec.exprs) : ∃ output ∈ spec.arrays state, expr ∈ output.array.rowMajor := by
  have supplied : ∀ (grid : Option (Grid (Expr Float))) (outputs : List (Expr Float)),
      expr ∈ (grid.map Grid.rowMajor).getD [] → expr ∈ (jacobianBy state grid outputs).rowMajor := by
    intro grid outputs found
    cases grid with
    | none => contradiction
    | some grid => exact found
  simp only [exprs, List.mem_append, List.mem_flatMap] at member
  simp only [arrays, outputs, List.mem_append, or_and_right, exists_or, List.exists_mem_cons_iff,
    List.mem_map, exists_exists_and_eq_and]
  rcases member with (((transition | observation) | F) | H) | ⟨entry, listed, found⟩
  · exact .inl (.inl transition)
  · exact .inl (.inr (.inr (.inl observation)))
  · exact .inl (.inr (.inl (supplied _ _ F)))
  · exact .inl (.inr (.inr (.inr (.inl (supplied _ _ H)))))
  · exact .inr ⟨entry, listed, found⟩

/-- The description with `f` of each expression of its state and its arrays in place. -/
def mapExprs (f : Expr Float → Expr Float) (spec : HeaderSpec) : HeaderSpec where
  state := spec.state.map f
  transition := spec.transition.map f
  observation := spec.observation.map f
  transitionJacobian := spec.transitionJacobian.map (Grid.map f)
  observationJacobian := spec.observationJacobian.map (Grid.map f)
  constants := spec.constants
  post := spec.post.map fun entry => (entry.1, entry.2.map f)

/-- The expressions of the arrays of a changed description. -/
theorem exprs_mapExprs (f : Expr Float → Expr Float) (spec : HeaderSpec) :
    (spec.mapExprs f).exprs = spec.exprs.map f := by
  have supplied : ∀ grid : Option (Grid (Expr Float)),
      ((grid.map (Grid.map f)).map Grid.rowMajor).getD [] =
        ((grid.map Grid.rowMajor).getD []).map f := by
    intro grid
    cases grid with
    | none => rfl
    | some grid => exact grid.rowMajor_map f
  have post : ∀ entry ∈ spec.post, (entry.2.map f).rowMajor = entry.2.rowMajor.map f :=
    fun entry _ => entry.2.rowMajor_map f
  simp only [exprs, mapExprs, supplied, List.map_append, List.flatMap_map, List.map_flatMap]
  rw [List.flatMap_congr post]

/-- The expressions of a description with the symbols replaced. -/
theorem exprs_substituted (spec : HeaderSpec) (substitution : Substitution Float) :
    (spec.substituted substitution).exprs = spec.exprs.map substitution.apply :=
  exprs_mapExprs substitution.apply spec

/-- No constant is mentioned where the constants are substituted. -/
theorem not_mentions_substituted
    (resolved : Substitution.ofConstants spec.constants = .ok substitution) {name : String}
    (mentioned : (spec.substituted substitution).Mentions name) :
    ¬spec.constants.contains name := by
  obtain ⟨expr, member, found⟩ := mentioned
  rw [exprs_substituted] at member
  obtain ⟨source, _, rfl⟩ := List.mem_map.1 member
  exact fun isKey => Substitution.not_contains_apply resolved source isKey found

/-- A symbol of an array is an entry of the state or a parameter. -/
theorem mem_state_or_parameters (spec : HeaderSpec) (state : List String) :
    ∀ output ∈ spec.arrays state, ∀ expr ∈ output.array.rowMajor,
      expr.SymbolsIn fun name => name ∈ state ∨ name ∈ spec.parameters state := by
  intro output member expr listed name found
  have mentioned := symbolsIn_outputs spec state output member expr listed name found
  by_cases known : name ∈ state
  · exact .inl known
  · exact .inr (mem_parameters.2 ⟨mentioned, known⟩)

end Symbols

section Names

/-- The names that arrays are copied to are claimed along with those of the arrays. -/
theorem sublist_outputNames (names : List String) :
    (names.map outputName).Sublist (names.flatMap fun name => [name, outputName name]) := by
  induction names with
  | nil => exact .slnil
  | cons first others ih => exact .cons _ (.cons_cons _ ih)

/-- The names of the arguments of a description whose names are claimed differ. -/
theorem nodup_argumentNames
    (claimed : DeclaredName.claim reservedNames
      (DeclaredName.all options guard (spec.post.map Prod.fst) parameters) = .ok ())
    (transitionJacobian observationJacobian : Grid (Expr Float)) :
    ("x" :: (spec.outputs transitionJacobian observationJacobian).map
      (fun output => outputName output.name) ++ parameters).Nodup := by
  obtain ⟨_, distinct, free⟩ := DeclaredName.claim_eq_ok.1 claimed
  have names : (DeclaredName.all options guard (spec.post.map Prod.fst) parameters).map
      DeclaredName.name = [options.functionName, options.stateMacro, options.observationMacro,
        guard] ++ ((spec.post.map Prod.fst).flatMap fun name => [name, outputName name]) ++
          parameters := by
    simp [DeclaredName.all, List.map_flatMap, Function.comp_def]
  have part : ((spec.post.map Prod.fst).map outputName ++ parameters).Sublist
      ((DeclaredName.all options guard (spec.post.map Prod.fst) parameters).map
        DeclaredName.name) := by
    rw [names]
    exact ((sublist_outputNames _).trans (List.sublist_append_right _ _)).append (.refl _)
  have split : "x" :: (spec.outputs transitionJacobian observationJacobian).map
      (fun output => outputName output.name) ++ parameters =
        ["x", "fx_out", "F_out", "hx_out", "H_out"] ++
          ((spec.post.map Prod.fst).map outputName ++ parameters) := by
    simp [outputs, outputName, OutputArray.ofPost]
  rw [split, List.nodup_append]
  refine ⟨by decide, distinct.sublist part, fun standard member name found => ?_⟩
  rintro rfl
  -- What every header declares is reserved.
  have reserved : ∀ name ∈ ["x", "fx_out", "F_out", "hx_out", "H_out"], name ∈ reservedNames := by
    decide
  obtain ⟨entry, listed, rfl⟩ := List.mem_map.1 (part.subset found)
  exact free entry listed (reserved _ member)

/-- The arrays of a description whose names are claimed can be declared. -/
theorem declarable_arrays
    (claimed : DeclaredName.claim reservedNames (DeclaredName.all options guard
      (spec.post.map Prod.fst) (spec.parameters state).toList) = .ok ()) :
    ∀ output ∈ spec.arrays state, Reader.Declarable state output := by
  intro output member
  exact {
    word := isWord_outputs claimed _ _ output member
    readable := fun expr listed name found => readable_of_claim claimed name
      (symbolsIn_outputs spec state output member expr listed name found) }

/-- The parameters of a description whose names are claimed are words. -/
theorem isWord_parameters
    (claimed : DeclaredName.claim reservedNames
      (DeclaredName.all options guard (spec.post.map Prod.fst) parameters) = .ok ()) :
    ∀ name ∈ parameters, C.isWord name.toList := by
  obtain ⟨identifiers, _⟩ := DeclaredName.claim_eq_ok.1 claimed
  intro name member
  have declared : ⟨name, true⟩ ∈
      DeclaredName.all options guard (spec.post.map Prod.fst) parameters :=
    List.mem_append_right _ (List.mem_map_of_mem member)
  exact (Bool.and_eq_true_iff.1 (identifiers _ declared rfl)).1

end Names

section Layouts

variable {layout : HeaderLayout}

/-- The entries of the state of a layout are different symbols. -/
theorem state_of_layout (laidOut : spec.layout options fileName = .ok layout) :
    spec.state = layout.state.map .symbol ∧ layout.state.Nodup := by
  obtain ⟨state, named, _, rfl⟩ := layout_eq_ok.1 laidOut
  obtain ⟨symbols, distinct, _⟩ := stateNamesFrom_eq_ok.1 named
  exact ⟨symbols, distinct⟩

/-- The arrays of a layout are those of the description. -/
theorem outputs_of_layout (laidOut : spec.layout options fileName = .ok layout) :
    layout.outputs = spec.arrays layout.state := by
  obtain ⟨state, _, _, rfl⟩ := layout_eq_ok.1 laidOut
  rfl

/-- The parameters of a layout are those of the description. -/
theorem parameters_of_layout (laidOut : spec.layout options fileName = .ok layout) :
    layout.parameters = spec.parameters layout.state := by
  obtain ⟨state, _, _, rfl⟩ := layout_eq_ok.1 laidOut
  rfl

/-- The arrays of a layout can be declared. -/
theorem declarable_of_layout (laidOut : spec.layout options fileName = .ok layout) :
    ∀ output ∈ layout.outputs, Reader.Declarable layout.state output := by
  obtain ⟨state, _, claimed, rfl⟩ := layout_eq_ok.1 laidOut
  exact declarable_arrays claimed

/-- The arguments of a layout have different names. -/
theorem nodup_arguments_of_layout (laidOut : spec.layout options fileName = .ok layout) :
    (layout.arguments.map Argument.name).Nodup := by
  obtain ⟨state, _, claimed, rfl⟩ := layout_eq_ok.1 laidOut
  rw [HeaderLayout.map_name_arguments]
  exact nodup_argumentNames claimed _ _

/-- The function of a layout is declared with words where the options pass their check. -/
theorem callable_of_layout (checked : options.check = .ok ())
    (laidOut : spec.layout options fileName = .ok layout) : Reader.Callable layout := by
  obtain ⟨function, stateMacro, observationMacro, _⟩ := HeaderOptions.check_eq_ok.1 checked
  have word := declarable_of_layout laidOut
  obtain ⟨state, _, claimed, rfl⟩ := layout_eq_ok.1 laidOut
  exact {
    state := (Bool.and_eq_true_iff.1 stateMacro).1
    observation := (Bool.and_eq_true_iff.1 observationMacro).1
    function := (Bool.and_eq_true_iff.1 function).1
    outputs := fun output member => (word output member).word
    parameters := isWord_parameters claimed }

/-- The include guard of a layout is on one line where the options pass their check. -/
theorem guard_of_layout (checked : options.check = .ok ())
    (laidOut : spec.layout options fileName = .ok layout) : '\n' ∉ layout.guard.toList := by
  obtain ⟨state, _, _, rfl⟩ := layout_eq_ok.1 laidOut
  exact C.notMem_of_isWord (options.isWord_guardFor checked fileName) (by decide)

/-- The header of a layout declares what its symbols are written as. -/
theorem declares_stateReference {name : String}
    (known : name ∈ layout.state ∨ name ∈ layout.parameters) :
    layout.generate.Declares layout.state name (Reader.stateReference layout.state name) := by
  rw [Reader.stateReference]
  by_cases member : name ∈ layout.state
  · rw [if_pos member]
    exact .inl ⟨_, List.idxOf_lt_length_of_mem member, Reader.getElem?_idxOf_of_mem member, rfl⟩
  · rw [if_neg member]
    exact .inr ⟨known.resolve_left member, rfl⟩

/-- The arrays that a header lists. -/
theorem initializers_of_layout (checked : options.check = .ok ())
    (laidOut : spec.layout options fileName = .ok layout) :
    Reader.initializers layout.text = layout.outputs.map fun output =>
      (output.name, Reader.pieces 0 (Reader.initializer layout.naming output.array)) := by
  obtain ⟨_, distinct⟩ := state_of_layout laidOut
  have declarable := declarable_of_layout laidOut
  rw [Reader.initializers, Reader.bodyLines_text distinct declarable (guard_of_layout checked laidOut),
    Reader.filterMap_functionLines distinct declarable, List.map_map]
  rfl

/-- What is listed for a given array of a layout refers to the symbols of the meant one. -/
theorem isListed_of_layout (laidOut : spec.layout options fileName = .ok layout)
    {meant : MeantArray} {output : OutputArray} (given : meant.IsGiven output)
    (member : output ∈ layout.outputs) :
    meant.IsListed layout.generate layout.state
      (output.name, Reader.pieces 0 (Reader.initializer layout.naming output.array)) := by
  obtain ⟨_, distinct⟩ := state_of_layout laidOut
  have declarable := declarable_of_layout laidOut output member
  constructor
  case name => exact given.name
  case length => exact (declarable.length_pieces distinct).trans (congrArg (max · 1) given.size)
  case placeholder =>
    exact fun empty => declarable.references_placeholder distinct (given.size.trans empty)
  case element =>
    intro place within
    have present : place < output.array.rowMajor.length :=
      Nat.lt_of_lt_of_eq within given.size.symm
    have found := List.getElem?_eq_getElem present
    obtain ⟨text, listed, names⟩ := declarable.exists_piece distinct found
    have declares : ∀ name, output.array.rowMajor[place].contains name →
        layout.generate.Declares layout.state name (Reader.stateReference layout.state name) := by
      intro name occurs
      refine declares_stateReference ?_
      rw [parameters_of_layout laidOut]
      exact mem_state_or_parameters spec layout.state output (outputs_of_layout laidOut ▸ member) _
        (List.getElem_mem present) name occurs
    refine ⟨_, text, (given.element place _).1 found, listed, fun name occurs => ?_,
      fun reference found => ?_⟩
    · exact ⟨_, names.named name occurs, declares name occurs⟩
    · exact (names.known reference found).imp_right fun ⟨name, occurs, same⟩ =>
        ⟨name, occurs, same ▸ declares name occurs⟩

/-- A composed header declares every name that its arrays refer to, and no parameter without
need. -/
theorem declaresSymbols_of_compose (composed : spec.compose options fileName = .ok header) :
    ∃ state, List.Forall₂ (fun expr name => spec.constants.Expands expr (.symbol name))
        spec.state state ∧
      spec.DeclaresSymbols state header := by
  obtain ⟨checked, fitting, substitution, layout, resolved, laidOut, rfl⟩ :=
    compose_eq_ok.1 composed
  obtain ⟨symbols, distinct⟩ := state_of_layout laidOut
  have parameters := parameters_of_layout laidOut
  have declarable := declarable_of_layout laidOut
  have callable := callable_of_layout checked laidOut
  have guarded := guard_of_layout checked laidOut
  have initializers := initializers_of_layout checked laidOut
  have arguments := Reader.arguments_text distinct declarable guarded callable
  have parameter : ∀ name ∈ layout.parameters.toList,
      (spec.substituted substitution).Mentions name ∧ name ∉ layout.state := by
    rw [parameters]
    exact fun name member => mem_parameters.1 member
  refine ⟨layout.state, (forall₂_expands_iff resolved).2 symbols, ?_⟩
  constructor
  case rendered =>
    change List.Forall₂ _ _ (Reader.initializers layout.text)
    have given : List.Forall₂ MeantArray.IsGiven (spec.meantArrays layout.state) layout.outputs :=
      outputs_of_layout laidOut ▸ forall₂_isGiven fitting resolved symbols
    have listed := (List.forall₂_and_left layout.outputs _).2 ⟨fun _ member => member, given.flip⟩
    rw [initializers, List.forall₂_map_right_iff]
    exact listed.flip.imp fun meant output both => isListed_of_layout laidOut both.2 both.1
  case entries =>
    change ∃ extent, (Reader.arguments layout.text).filter _ = _
    rw [arguments]
    exact Reader.exists_filter_signature callable (nodup_arguments_of_layout laidOut)
  case increasing => exact layout.parameters.increasing
  case noState => exact fun name member => (parameter name member).2
  case noConstant =>
    exact fun name member => not_mentions_substituted resolved (parameter name member).1
  case occurs =>
    intro name member
    obtain ⟨⟨expr, listed, found⟩, noState⟩ := parameter name member
    obtain ⟨output, array, element⟩ := exists_array_of_mem_exprs layout.state listed
    rw [← outputs_of_layout laidOut] at array
    obtain ⟨place, element⟩ := List.mem_iff_getElem?.1 element
    obtain ⟨text, piece, names⟩ := (declarable output array).exists_piece distinct element
    have reference := names.named name found
    rw [Reader.stateReference, if_neg noState] at reference
    have listed : (output.name, Reader.pieces 0 (Reader.initializer layout.naming output.array)) ∈
        Reader.initializers layout.text := initializers ▸ List.mem_map_of_mem array
    exact ⟨_, listed, text, List.mem_of_getElem? piece, reference⟩
  case argument =>
    intro name member
    change (Reader.arguments layout.text).filter _ = _
    rw [arguments]
    exact Reader.filter_signature callable (nodup_arguments_of_layout laidOut) member

/-- A falling point with drag. Its height is observed with a gain, the step follows from the
period through two constants and the noise is only needed for a further array. -/
def falling : HeaderSpec where
  state := [.symbol "p", .symbol "v"]
  transition := [.add (.symbol "p") (.mul (.symbol "dt") (.symbol "v")),
    .mul (.symbol "v") (.call .exp (.neg (.mul (.symbol "drag") (.symbol "dt"))))]
  observation := [.symbol "p"]
  transitionJacobian := none
  observationJacobian := some ⟨2, [[.symbol "gain", .literal 0]], by simp⟩
  constants := .ofList [("dt", .div (.symbol "span") (.literal 2)), ("span", .symbol "period")]
  post := [("q", .vector [.symbol "noise"])]

/-- The constants of a falling point, resolved. -/
def fallingConstants : Substitution Float :=
  ⟨[("dt", .div (.symbol "period") (.literal 2)), ("span", .symbol "period")]⟩

/-- The constants of a falling point are resolved one through the other. -/
theorem ofConstants_falling :
    Substitution.ofConstants falling.constants = .ok fallingConstants := by
  cbv

/-- A falling point has a header. -/
theorem exists_compose_falling :
    ∃ header, falling.compose .standard "model.h" = .ok header ∧
      header.parameters = ["drag", "gain", "noise", "period"] := by
  have named : (falling.substituted fallingConstants).stateNames = .ok ["p", "v"] := rfl
  obtain ⟨header, composed, parameters⟩ := @exists_compose_of_claim falling .standard "model.h" _ _
    (by decide) (by decide) ofConstants_falling named (by decide)
  exact ⟨header, composed, parameters.trans (by decide)⟩

/-- The function of a falling point takes what its arrays mention: no constant, but the
period that the constants lead to. -/
theorem declaresSymbols_of_compose_of_falling :
    ∃ header, falling.compose .standard "model.h" = .ok header ∧
      header.parameters = ["drag", "gain", "noise", "period"] ∧
      falling.DeclaresSymbols ["p", "v"] header := by
  obtain ⟨header, composed, parameters⟩ := exists_compose_falling
  obtain ⟨state, symbols, declares⟩ := declaresSymbols_of_compose composed
  obtain rfl : ["p", "v"] = state := List.map_injective_iff.2 (fun _ _ => Expr.symbol.inj)
    ((forall₂_expands_iff ofConstants_falling).1 symbols)
  exact ⟨_, composed, parameters, declares⟩

end Layouts

end HeaderSpec

end KalmanHeader
