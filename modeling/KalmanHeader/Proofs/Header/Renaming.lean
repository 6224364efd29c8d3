import KalmanHeader.Proofs.Constants.Renaming
import KalmanHeader.Proofs.Header.Scope

/-!
# Bound names

The symbols of the state and the keys of the constants are bound by a description: its
header never spells them. The entries of the state are written by their places, and the
constants are gone when the arrays are written. Names that occur nowhere else in the
description may stand for them without any difference to the header.
-/

namespace KalmanHeader

section Written

variable {relabel : String → String} {naming naming' : C.Naming}

/-- Renaming changes nothing about where parentheses are. -/
theorem C.strength_rename (expr : Expr Float) : strength (expr.rename relabel) = strength expr := by
  cases expr with
  | binary operation => cases operation <;> rfl
  | literal | symbol | neg | call => rfl

/-- Renaming changes no sign. -/
theorem C.isSigned_rename (expr : Expr Float) : isSigned (expr.rename relabel) = isSigned expr := by
  cases expr <;> rfl

/-- An expression is written in the same way where its renamed symbols are. -/
theorem C.expression_rename {expr : Expr Float}
    (same : expr.SymbolsIn fun name => naming' (relabel name) = naming name) :
    expression naming' (expr.rename relabel) = expression naming expr := by
  induction expr with
  | literal value => rfl
  | symbol name => exact same name (beq_self_eq_true name)
  | neg operand ih =>
    rw [Expr.rename, expression, expression, strength_rename, isSigned_rename, ih same]
  | binary operation left right ihLeft ihRight =>
    obtain ⟨sameLeft, sameRight⟩ := Expr.symbolsIn_binary.1 same
    rw [Expr.rename, expression, expression, ihLeft sameLeft, ihRight sameRight]
    simp only [strength_rename, isSigned_rename]
  | call function argument ih => rw [Expr.rename, expression, expression, ih same]

/-- An array is declared in the same way where the renamed symbols are written as the
symbols were. -/
theorem C.declaration_rename (name : String) {array : ExprArray Float}
    (same : ∀ expr ∈ array.rowMajor,
      expr.SymbolsIn fun name => naming' (relabel name) = naming name) :
    declaration naming' name (array.map (Expr.rename relabel)) = declaration naming name array := by
  have elements : (array.map (Expr.rename relabel)).rowMajor.map (expression naming') =
      array.rowMajor.map (expression naming) := by
    rw [ExprArray.rowMajor_map, List.map_map]
    exact List.map_congr_left fun expr member => expression_rename (same expr member)
  rw [declaration, declaration, elements, ExprArray.size_map, ExprArray.shape_map]

/-- An array of the function with its symbols renamed. -/
def OutputArray.renamed (relabel : String → String) (output : OutputArray) : OutputArray :=
  { output with array := output.array.map (Expr.rename relabel) }

/-- The layout with the state and the symbols of the arrays renamed. -/
def HeaderLayout.renamed (layout : HeaderLayout) (relabel : String → String) : HeaderLayout :=
  { layout with
    state := layout.state.map relabel
    outputs := layout.outputs.map (OutputArray.renamed relabel) }

namespace HeaderLayout

variable {layout : HeaderLayout}

/-- The signature does not name the state. -/
theorem signature_renamed : (layout.renamed relabel).signature = layout.signature := by
  have parameters : (layout.outputs.map (OutputArray.renamed relabel)).map
      (OutputArray.parameter layout.options) =
        layout.outputs.map (OutputArray.parameter layout.options) := List.map_map
  simp only [signature, renamed, parameters, List.length_map]

/-- The same arrays are copied. -/
theorem copiedOutputs_renamed :
    (layout.renamed relabel).copiedOutputs = layout.copiedOutputs.map (.renamed relabel) := by
  rw [copiedOutputs, renamed, List.filter_map]
  rfl

/-- The body is the same where the renamed symbols are written as the symbols were. -/
theorem body_renamed
    (same : ∀ output ∈ layout.outputs, ∀ expr ∈ output.array.rowMajor,
      expr.SymbolsIn fun name =>
        (layout.renamed relabel).naming (relabel name) = layout.naming name) :
    (layout.renamed relabel).body = layout.body := by
  have declarations : (layout.renamed relabel).outputs.map
      (OutputArray.declarationLine (layout.renamed relabel).naming) =
        layout.outputs.map (OutputArray.declarationLine layout.naming) := by
    refine List.map_map.trans (List.map_congr_left fun output member => ?_)
    have declared := C.declaration_rename output.name (same output member)
    rw [Function.comp_apply, OutputArray.declarationLine, OutputArray.declarationLine, ← declared]
    rfl
  have copies : (layout.renamed relabel).copiedOutputs.map OutputArray.copyLine =
      layout.copiedOutputs.map OutputArray.copyLine := by
    rw [copiedOutputs_renamed]
    exact List.map_map
  rw [body, declarations, copies, body]

/-- The header is the same where the renamed symbols are written as the symbols were. -/
theorem generate_renamed
    (same : ∀ output ∈ layout.outputs, ∀ expr ∈ output.array.rowMajor,
      expr.SymbolsIn fun name =>
        (layout.renamed relabel).naming (relabel name) = layout.naming name) :
    (layout.renamed relabel).generate = layout.generate := by
  have size : (layout.renamed relabel).state.length = layout.state.length := List.length_map _
  have code : (layout.renamed relabel).code = layout.code := by
    unfold code
    simp only [signature_renamed, body_renamed same, size]
    simp only [renamed]
  have text : (layout.renamed relabel).text = layout.text := by
    unfold text
    rw [code, banner, renamed, banner]
  rw [generate, text, size]
  rfl

end HeaderLayout

end Written

namespace HeaderSpec

variable {spec : HeaderSpec} {relabel relabel' : String → String} {state : List String}
  {options : HeaderOptions} {fileName : String} {layout : HeaderLayout} {header : GeneratedHeader}

section Specs

/-- The description with all symbols and the keys of the constants renamed. -/
def renamed (spec : HeaderSpec) (relabel : String → String) : HeaderSpec :=
  { spec.mapExprs (Expr.rename relabel) with constants := spec.constants.renamed relabel }

/-- Whether a name occurs in a description, as a symbol or as a key. -/
def Occurs (spec : HeaderSpec) (name : String) : Prop :=
  (∃ expr ∈ spec.state ++ spec.exprs, expr.contains name) ∨
    ∃ entry ∈ spec.constants.entries, entry.1 = name ∨ entry.2.contains name

instance (spec : HeaderSpec) (name : String) : Decidable (spec.Occurs name) :=
  inferInstanceAs (Decidable ((∃ expr ∈ spec.state ++ spec.exprs, expr.contains name) ∨
    ∃ entry ∈ spec.constants.entries, entry.1 = name ∨ entry.2.contains name))

/-- Whether a description binds a name: a key of its constants, or a symbol of its state
with the constants substituted. -/
def Binds (spec : HeaderSpec) (name : String) : Prop :=
  spec.constants.contains name ∨
    ∃ substitution, Substitution.ofConstants spec.constants = .ok substitution ∧
      .symbol name ∈ spec.state.map substitution.apply

/-- Whether only bound names are renamed, different ones differently, to names that do not
occur. -/
structure RenamesBound (spec : HeaderSpec) (relabel : String → String) : Prop where
  injective : ∀ name other, spec.Binds name → spec.Binds other → relabel name = relabel other →
    name = other
  fixed : ∀ name, spec.Occurs name → ¬spec.Binds name → relabel name = name
  fresh : ∀ name, spec.Binds name → relabel name = name ∨ ¬spec.Occurs (relabel name)

/-- Changes that agree on the expressions of a description make the same description of
it. -/
theorem mapExprs_congr {f g : Expr Float → Expr Float}
    (same : ∀ expr ∈ spec.state ++ spec.exprs, f expr = g expr) :
    spec.mapExprs f = spec.mapExprs g := by
  have supplied : ∀ grid : Option (Grid (Expr Float)),
      (∀ expr ∈ (grid.map Grid.rowMajor).getD [], f expr = g expr) →
        grid.map (Grid.map f) = grid.map (Grid.map g) := by
    intro grid same
    cases grid with
    | none => rfl
    | some grid => exact congrArg some (Grid.map_congr same)
  simp only [exprs, List.forall_mem_append] at same
  obtain ⟨state, ⟨⟨⟨transition, observation⟩, F⟩, H⟩, post⟩ := same
  have arrays : ∀ entry ∈ spec.post, (entry.1, entry.2.map f) = (entry.1, entry.2.map g) := by
    intro entry member
    refine congrArg (entry.1, ·) (ExprArray.map_congr fun expr found => ?_)
    exact post expr (List.mem_flatMap.2 ⟨entry, member, found⟩)
  simp only [mapExprs, List.map_congr_left state, List.map_congr_left transition,
    List.map_congr_left observation, supplied _ F, supplied _ H, List.map_congr_left arrays]

/-- Changing the expressions of a changed description. -/
theorem mapExprs_mapExprs (f g : Expr Float → Expr Float) (spec : HeaderSpec) :
    (spec.mapExprs f).mapExprs g = spec.mapExprs (g ∘ f) := by
  have supplied : ∀ grid : Option (Grid (Expr Float)),
      (grid.map (Grid.map f)).map (Grid.map g) = grid.map (Grid.map (g ∘ f)) := by
    intro grid
    cases grid with
    | none => rfl
    | some grid => exact congrArg some (grid.map_map f g)
  simp only [mapExprs, List.map_map, supplied]
  simp only [Function.comp_def, ExprArray.map_map]

/-- The dimensions of a changed description are the same. -/
theorem checkDimensions_mapExprs (f : Expr Float → Expr Float) (spec : HeaderSpec) :
    (spec.mapExprs f).checkDimensions = spec.checkDimensions := by
  have supplied : ∀ (name : String) (expected : Nat × Nat) (grid : Option (Grid (Expr Float))),
      checkShape name expected (grid.map (Grid.map f)) = checkShape name expected grid := by
    intro name expected grid
    cases grid with
    | none => rfl
    | some grid => simp only [Option.map_some, checkShape, grid.shape_map]
  simp only [checkDimensions, mapExprs, List.length_map, supplied]

/-- Renaming a description only depends on the names that occur in it. -/
theorem renamed_congr (same : ∀ name, spec.Occurs name → relabel name = relabel' name) :
    spec.renamed relabel = spec.renamed relabel' := by
  have exprs : spec.mapExprs (Expr.rename relabel) = spec.mapExprs (Expr.rename relabel') := by
    refine mapExprs_congr fun expr member => Expr.rename_congr fun name found => ?_
    exact same name (.inl ⟨expr, member, found⟩)
  have constants : spec.constants.renamed relabel = spec.constants.renamed relabel' := by
    refine Constants.renamed_congr fun entry member => ⟨?_, fun name found => ?_⟩
    · exact same entry.1 (.inr ⟨entry, member, .inl rfl⟩)
    · exact same name (.inr ⟨entry, member, .inr found⟩)
  rw [renamed, exprs, constants, renamed]

/-- Substituting the renamed constants into a renamed description. -/
theorem substituted_renamed {substitution substitution' : Substitution Float}
    (commutes : ∀ expr, substitution'.apply (expr.rename relabel) =
      (substitution.apply expr).rename relabel) :
    (spec.renamed relabel).substituted substitution' =
      (spec.substituted substitution).renamed relabel := by
  have exprs : (spec.mapExprs (Expr.rename relabel)).mapExprs substitution'.apply =
      (spec.mapExprs substitution.apply).mapExprs (Expr.rename relabel) := by
    rw [mapExprs_mapExprs, mapExprs_mapExprs]
    exact congrArg spec.mapExprs (funext commutes)
  exact congrArg (fun found : HeaderSpec => { found with constants := .empty }) exprs

end Specs

section Layouts

variable (injective : Function.Injective relabel)

include injective

/-- A Jacobian of renamed outputs by a renamed state. -/
theorem jacobianBy_renamed (state : List String) (supplied : Option (Grid (Expr Float)))
    (outputs : List (Expr Float)) :
    jacobianBy (state.map relabel) (supplied.map (Grid.map (Expr.rename relabel)))
        (outputs.map (Expr.rename relabel)) =
      (jacobianBy state supplied outputs).map (Expr.rename relabel) := by
  cases supplied with
  | none =>
    refine (Grid.map_tabulate (fun output name => ?_) outputs state).symm
    exact Expr.rename_diff injective name output
  | some grid => rfl

/-- The arrays of a renamed description. -/
theorem arrays_renamed (spec : HeaderSpec) (state : List String) :
    (spec.renamed relabel).arrays (state.map relabel) =
      (spec.arrays state).map (OutputArray.renamed relabel) := by
  have post : (spec.post.map fun entry => (entry.1, entry.2.map (Expr.rename relabel))).map
      OutputArray.ofPost = (spec.post.map .ofPost).map (OutputArray.renamed relabel) := by
    simp only [List.map_map, Function.comp_def, OutputArray.ofPost, OutputArray.renamed,
      ExprArray.size_map]
  simp only [arrays, outputs, renamed, mapExprs, jacobianBy_renamed injective, List.length_map,
    List.map_append, post]
  rfl

/-- The symbols of the arrays of a renamed description. -/
theorem mentions_renamed (spec : HeaderSpec) (name : String) :
    (spec.renamed relabel).Mentions name ↔ ∃ source, relabel source = name ∧ spec.Mentions source := by
  have exprs : (spec.renamed relabel).exprs = spec.exprs.map (Expr.rename relabel) :=
    exprs_mapExprs _ spec
  rw [Mentions, exprs]
  constructor
  · rintro ⟨_, member, found⟩
    obtain ⟨expr, listed, rfl⟩ := List.mem_map.1 member
    obtain ⟨source, same, inner⟩ := Expr.exists_of_contains_rename found
    exact ⟨source, same, expr, listed, inner⟩
  · rintro ⟨source, rfl, expr, listed, found⟩
    exact ⟨_, List.mem_map_of_mem listed, (Expr.contains_rename injective expr source).trans found⟩

/-- The parameters of a renamed description, where these are not renamed. -/
theorem parameters_renamed (fixed : ∀ name ∈ spec.parameters state, relabel name = name) :
    (spec.renamed relabel).parameters (state.map relabel) = spec.parameters state := by
  refine NameSet.eq_of_mem_iff fun name => ?_
  rw [mem_parameters, mentions_renamed injective]
  constructor
  · rintro ⟨⟨source, rfl, mentioned⟩, absent⟩
    have parameter := mem_parameters.2
      ⟨mentioned, fun member => absent (List.mem_map_of_mem member)⟩
    rwa [fixed source parameter]
  · intro parameter
    obtain ⟨mentioned, absent⟩ := mem_parameters.1 parameter
    refine ⟨⟨name, fixed name parameter, mentioned⟩, fun member => ?_⟩
    obtain ⟨source, listed, same⟩ := List.mem_map.1 member
    exact absent (injective (same.trans (fixed name parameter).symm) ▸ listed)

/-- The layout of a renamed description, where the parameters are not renamed. -/
theorem layout_renamed (laidOut : spec.layout options fileName = .ok layout)
    (fixed : ∀ name ∈ layout.parameters, relabel name = name) :
    (spec.renamed relabel).layout options fileName = .ok (layout.renamed relabel) := by
  obtain ⟨state, named, claimed, rfl⟩ := layout_eq_ok.1 laidOut
  obtain ⟨symbols, distinct, _⟩ := stateNamesFrom_eq_ok.1 named
  have parameters := parameters_renamed injective fixed
  have names : (spec.renamed relabel).post.map Prod.fst = spec.post.map Prod.fst := List.map_map
  refine layout_eq_ok.2 ⟨state.map relabel, stateNamesFrom_eq_ok.2 ⟨?_, ?_, ?_⟩, ?_, ?_⟩
  · change spec.state.map (Expr.rename relabel) = _
    rw [symbols, List.map_map, List.map_map]
    rfl
  · exact distinct.map injective
  · exact fun _ _ => List.not_mem_nil
  · rw [parameters, names]
    exact claimed
  · have count : (spec.renamed relabel).observation.length = spec.observation.length :=
      List.length_map _
    rw [← arrays, ← arrays, arrays_renamed injective, parameters, count]
    rfl

/-- A symbol is written in the same way after renaming, as the entry of the state or as the
parameter that it is. -/
theorem naming_renamed (distinct : layout.state.Nodup) {name : String}
    (known : name ∈ layout.state ∨ relabel name = name) :
    (layout.renamed relabel).naming (relabel name) = layout.naming name := by
  change C.stateNaming "x" (layout.state.map relabel) _ = C.stateNaming "x" layout.state _
  by_cases member : name ∈ layout.state
  · obtain ⟨place, found⟩ := List.mem_iff_getElem?.1 member
    have found' : (layout.state.map relabel)[place]? = some (relabel name) := by
      rw [List.getElem?_map, found, Option.map_some]
    rw [C.stateNaming_of_getElem? distinct found,
      C.stateNaming_of_getElem? (distinct.map injective) found']
  · have absent : relabel name ∉ layout.state.map relabel := by
      rw [List.mem_map_of_injective injective]
      exact member
    rw [C.stateNaming_of_notMem member, C.stateNaming_of_notMem absent]
    exact known.resolve_left member

/-- A description composes to the same header after all its names are renamed, where the
names of the parameters stay. -/
theorem compose_renamed_of_injective
    (composed : spec.compose options fileName = .ok header)
    (fixed : ∀ name ∈ header.parameters, relabel name = name) :
    (spec.renamed relabel).compose options fileName = .ok header := by
  obtain ⟨checked, fitting, substitution, layout, resolved, laidOut, rfl⟩ := compose_eq_ok.1 composed
  obtain ⟨substitution', resolved', commutes⟩ :=
    Substitution.exists_ofConstants_renamed injective resolved
  obtain ⟨_, distinct⟩ := state_of_layout laidOut
  have laidOut' := layout_renamed injective laidOut fixed
  rw [← substituted_renamed commutes] at laidOut'
  have same : ∀ output ∈ layout.outputs, ∀ expr ∈ output.array.rowMajor,
      expr.SymbolsIn fun name =>
        (layout.renamed relabel).naming (relabel name) = layout.naming name := by
    rw [outputs_of_layout laidOut]
    intro output member expr listed name found
    have known := mem_state_or_parameters _ layout.state output member expr listed name found
    rw [← parameters_of_layout laidOut] at known
    exact naming_renamed injective distinct (known.imp_right (fixed name))
  rw [← HeaderLayout.generate_renamed same]
  exact compose_eq_ok.2 ⟨checked, (checkDimensions_mapExprs _ spec).trans fitting, substitution', _,
    resolved', laidOut', rfl⟩

end Layouts

section Bound

open Classical in
/-- A renaming of the names that occur in a description extended to all names: a name that
another one is renamed to takes the place of that one. -/
noncomputable def exchange (spec : HeaderSpec) (relabel : String → String) (name : String) :
    String :=
  if spec.Occurs name then relabel name
  else if taken : ∃ source, spec.Occurs source ∧ relabel source = name then taken.choose
  else name

namespace RenamesBound

variable (renames : spec.RenamesBound relabel)

include renames

/-- A name that occurs stays or is renamed to one that does not occur. -/
theorem stays_or_leaves {name : String} (occurs : spec.Occurs name) :
    relabel name = name ∨ ¬spec.Occurs (relabel name) := by
  by_cases bound : spec.Binds name
  · exact renames.fresh name bound
  · exact .inl (renames.fixed name occurs bound)

/-- Names that occur are renamed differently. -/
theorem eq_of_relabel_eq {name other : String} (occurs : spec.Occurs name)
    (occurs' : spec.Occurs other) (same : relabel name = relabel other) : name = other := by
  by_cases bound : spec.Binds name
  · by_cases bound' : spec.Binds other
    · exact renames.injective name other bound bound' same
    · -- The other name stays, so it is what a bound name is renamed to.
      rw [renames.fixed other occurs' bound'] at same
      rcases renames.fresh name bound with stays | leaves
      · exact stays.symm.trans same
      · exact absurd (same ▸ occurs') leaves
  · rw [renames.fixed name occurs bound] at same
    rcases renames.stays_or_leaves occurs' with stays | leaves
    · exact same.trans stays
    · exact absurd (same ▸ occurs) leaves

/-- The extended renaming undoes itself. -/
theorem exchange_involutive : Function.Involutive (spec.exchange relabel) := by
  intro name
  by_cases occurs : spec.Occurs name
  · have renamed : spec.exchange relabel name = relabel name := if_pos occurs
    rcases renames.stays_or_leaves occurs with stays | leaves
    · rw [renamed, stays, renamed, stays]
    · have taken : ∃ source, spec.Occurs source ∧ relabel source = relabel name :=
        ⟨name, occurs, rfl⟩
      obtain ⟨occurs', same⟩ := taken.choose_spec
      rw [renamed, exchange, if_neg leaves, dif_pos taken]
      exact renames.eq_of_relabel_eq occurs' occurs same
  · by_cases taken : ∃ source, spec.Occurs source ∧ relabel source = name
    · obtain ⟨occurs', same⟩ := taken.choose_spec
      have back : spec.exchange relabel name = taken.choose := by
        rw [exchange, if_neg occurs, dif_pos taken]
      rw [back, exchange, if_pos occurs', same]
    · have stays : spec.exchange relabel name = name := by
        rw [exchange, if_neg occurs, dif_neg taken]
      rw [stays, stays]

end RenamesBound

/-- A symbol that is left when the constants are substituted occurs in the description. -/
theorem occurs_of_mentions_substituted {substitution : Substitution Float}
    (resolved : Substitution.ofConstants spec.constants = .ok substitution) {name : String}
    (mentioned : (spec.substituted substitution).Mentions name) : spec.Occurs name := by
  obtain ⟨_, member, found⟩ := mentioned
  rw [exprs_substituted] at member
  obtain ⟨expr, listed, rfl⟩ := List.mem_map.1 member
  refine (Substitution.expands_apply resolved expr).symbolsIn_of_values (fun other inner => ?_)
    (fun key value defined other inner => ?_) name found
  · exact .inl ⟨expr, List.mem_append_right _ listed, inner⟩
  · obtain ⟨before, after, entries, _⟩ := List.lookup_eq_some_iff.1 defined
    exact .inr ⟨(key, value), entries ▸ List.mem_append_right _ List.mem_cons_self, .inr inner⟩

/-- A parameter of a header is a name that occurs in the description and is not bound. -/
theorem occurs_and_not_binds_of_mem_parameters
    (composed : spec.compose options fileName = .ok header) {name : String}
    (parameter : name ∈ header.parameters) : spec.Occurs name ∧ ¬spec.Binds name := by
  obtain ⟨_, _, substitution, layout, resolved, laidOut, rfl⟩ := compose_eq_ok.1 composed
  have member : name ∈ layout.parameters := parameter
  rw [parameters_of_layout laidOut] at member
  obtain ⟨mentioned, absent⟩ := mem_parameters.1 member
  refine ⟨occurs_of_mentions_substituted resolved mentioned, ?_⟩
  rintro (isKey | ⟨substitution', resolved', entry⟩)
  · exact not_mentions_substituted resolved mentioned isKey
  · obtain rfl := Except.ok.inj (resolved.symm.trans resolved')
    have symbols : spec.state.map substitution.apply = layout.state.map .symbol :=
      (state_of_layout laidOut).1
    rw [symbols, List.mem_map_of_injective fun _ _ => Expr.symbol.inj] at entry
    exact absent entry

/-- The header of a description stays the same when bound names are renamed. -/
theorem compose_renamed (composed : spec.compose options fileName = .ok header)
    (renames : spec.RenamesBound relabel) :
    (spec.renamed relabel).compose options fileName = .ok header := by
  have agrees : ∀ name, spec.Occurs name → spec.exchange relabel name = relabel name :=
    fun name occurs => if_pos occurs
  rw [← renamed_congr agrees]
  refine compose_renamed_of_injective renames.exchange_involutive.injective composed
    fun name parameter => ?_
  obtain ⟨occurs, free⟩ := occurs_and_not_binds_of_mem_parameters composed parameter
  rw [agrees name occurs, renames.fixed name occurs free]

/-- The names that a falling point binds: its state and its constants. -/
theorem binds_falling {name : String} :
    falling.Binds name ↔ name ∈ ["p", "v", "dt", "span"] := by
  constructor
  · rintro (isKey | ⟨substitution, resolved, entry⟩)
    · obtain ⟨_, found⟩ := Option.isSome_iff_exists.1 isKey
      have key : name ∈ ["dt", "span"] := NameMap.mem_keys_of_find?_eq_some found
      exact List.mem_append_right ["p", "v"] key
    · obtain rfl := Except.ok.inj (ofConstants_falling.symm.trans resolved)
      have symbol : Expr.symbol name ∈ ["p", "v"].map (Expr.symbol : String → Expr Float) := entry
      rw [List.mem_map_of_injective fun _ _ => Expr.symbol.inj] at symbol
      exact List.mem_append_left ["dt", "span"] symbol
  · intro member
    have bound : ∀ key ∈ ["dt", "span"], falling.constants.contains key := by decide
    have either : name ∈ ["p", "v"] ++ ["dt", "span"] := member
    rcases List.mem_append.1 either with symbol | key
    · exact .inr ⟨_, ofConstants_falling, List.mem_map_of_mem symbol⟩
    · exact .inl (bound name key)

/-- Other names for the state and the constants of a falling point, which put the constants
in another order. -/
def fallingNames (name : String) : String :=
  ([("p", "height"), ("v", "speed"), ("dt", "step"), ("span", "interval")].lookup name).getD name

/-- The other names only stand for names that a falling point binds. -/
theorem renamesBound_falling : falling.RenamesBound fallingNames where
  injective name other bound bound' same := by
    have distinct : ∀ name ∈ ["p", "v", "dt", "span"], ∀ other ∈ ["p", "v", "dt", "span"],
        fallingNames name = fallingNames other → name = other := by decide
    exact distinct name (binds_falling.1 bound) other (binds_falling.1 bound') same
  fixed name _ free := by
    rw [binds_falling] at free
    have missing : [("p", "height"), ("v", "speed"), ("dt", "step"), ("span", "interval")].lookup
        name = none := by
      refine List.lookup_eq_none_iff.2 fun entry member => bne_iff_ne.2 ?_
      rintro rfl
      exact free (List.mem_map_of_mem member)
    rw [fallingNames, missing, Option.getD_none]
  fresh name bound := by
    have leaves : ∀ name ∈ ["p", "v", "dt", "span"], ¬falling.Occurs (fallingNames name) := by
      decide
    exact .inr (leaves name (binds_falling.1 bound))

/-- The header of a falling point does not change with the names of its state and its
constants. -/
theorem compose_renamed_of_falling :
    ∃ header, falling.compose .standard "model.h" = .ok header ∧
      falling.RenamesBound fallingNames ∧
      (falling.renamed fallingNames).state = [.symbol "height", .symbol "speed"] ∧
      (falling.renamed fallingNames).constants.keys.toList = ["interval", "step"] ∧
      (falling.renamed fallingNames).compose .standard "model.h" = .ok header := by
  obtain ⟨header, composed, _⟩ := exists_compose_falling
  exact ⟨_, composed, renamesBound_falling, rfl, by decide,
    compose_renamed composed renamesBound_falling⟩

end Bound

end HeaderSpec

end KalmanHeader
