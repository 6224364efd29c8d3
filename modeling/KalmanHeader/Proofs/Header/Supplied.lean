import KalmanHeader.Proofs.Header.Scope

/-!
# Supplying the Jacobians that would be computed

A supplied Jacobian is checked for its shape, has the constants substituted and is
searched for symbols, none of which happens to a computed one. For the Jacobians that
would be computed anyway this makes no difference: they have the right shape, no
constant is left in them and their symbols are known from the outputs. So it only saves
work to leave them out.
-/

namespace KalmanHeader

/-- Changing nothing at any entry changes nothing. -/
theorem Grid.map_eq_self {α : Type} {f : α → α} {grid : Grid α}
    (same : ∀ entry ∈ grid.rowMajor, f entry = entry) : grid.map f = grid :=
  (Grid.map_congr same).trans grid.map_id

/-- Substituting constants into an expression without keys changes nothing. -/
theorem Substitution.apply_of_free {ν : Type} {constants : Constants ν}
    {substitution : Substitution ν} (resolved : ofConstants constants = .ok substitution)
    {expr : Expr ν} (free : expr.SymbolsIn (constants.find? · = none)) :
    substitution.apply expr = expr :=
  (expands_apply resolved expr).unique (Constants.expands_self free)

namespace HeaderSpec

variable {spec : HeaderSpec} {substitution : Substitution Float} {state : List String}
  {transitionJacobian observationJacobian : Grid (Expr Float)}

/-- The description with the given Jacobians in place of those that are not supplied. -/
def withJacobians (spec : HeaderSpec) (transitionJacobian observationJacobian : Grid (Expr Float)) :
    HeaderSpec where
  state := spec.state
  transition := spec.transition
  observation := spec.observation
  transitionJacobian := some (spec.transitionJacobian.getD transitionJacobian)
  observationJacobian := some (spec.observationJacobian.getD observationJacobian)
  constants := spec.constants
  post := spec.post

section Checks

/-- A supplied Jacobian of the expected shape passes the check that none passes. -/
theorem checkShape_getD (name : String) {expected : Nat × Nat} {grid : Grid (Expr Float)}
    (shaped : grid.shape = expected) (supplied : Option (Grid (Expr Float))) :
    checkShape name expected (some (supplied.getD grid)) = checkShape name expected supplied := by
  cases supplied with
  | none => exact if_pos shaped
  | some found => rfl

/-- Jacobians with a row for each output and a column for each entry of the state make no
difference to the check of the dimensions. -/
theorem checkDimensions_withJacobians
    (shaped : transitionJacobian.shape = (spec.transition.length, spec.state.length))
    (shaped' : observationJacobian.shape = (spec.observation.length, spec.state.length)) :
    (spec.withJacobians transitionJacobian observationJacobian).checkDimensions =
      spec.checkDimensions := by
  unfold checkDimensions withJacobians
  by_cases fitting : spec.transition.length = spec.state.length
  · simp only [checkShape_getD "F" (fitting ▸ shaped), checkShape_getD "H" shaped']
  · simp only [fitting, ne_eq, not_false_eq_true, if_true]
    rfl

end Checks

section Symbols

/-- Substituting into a description with Jacobians that have no keys leaves these
Jacobians. -/
theorem substituted_withJacobians
    (same : transitionJacobian.map substitution.apply = transitionJacobian)
    (same' : observationJacobian.map substitution.apply = observationJacobian) :
    (spec.withJacobians transitionJacobian observationJacobian).substituted substitution =
      (spec.substituted substitution).withJacobians transitionJacobian observationJacobian := by
  have supplied : ∀ {grid : Grid (Expr Float)} (found : Option (Grid (Expr Float))),
      grid.map substitution.apply = grid → (some (found.getD grid)).map (Grid.map substitution.apply) =
        some ((found.map (Grid.map substitution.apply)).getD grid) := by
    intro grid found same
    cases found with
    | none => exact congrArg some same
    | some found => rfl
  unfold withJacobians substituted
  rw [supplied _ same, supplied _ same']

/-- Jacobians that only have symbols of a description bring no further ones. -/
theorem mentions_withJacobians
    (inner : ∀ expr ∈ transitionJacobian.rowMajor, expr.SymbolsIn spec.Mentions)
    (inner' : ∀ expr ∈ observationJacobian.rowMajor, expr.SymbolsIn spec.Mentions) (name : String) :
    (spec.withJacobians transitionJacobian observationJacobian).Mentions name ↔
      spec.Mentions name := by
  have more : ∀ expr ∈ spec.exprs,
      expr ∈ (spec.withJacobians transitionJacobian observationJacobian).exprs := by
    have supplied : ∀ (found : Option (Grid (Expr Float))) (grid : Grid (Expr Float)),
        ∀ expr ∈ (found.map Grid.rowMajor).getD [], expr ∈ (found.getD grid).rowMajor := by
      intro found grid expr member
      cases found with
      | none => contradiction
      | some found => exact member
    intro expr member
    simp only [exprs, withJacobians, List.mem_append, Option.map_some, Option.getD_some] at member ⊢
    exact member.imp_left (Or.imp (Or.imp_right (supplied _ _ _)) (supplied _ _ _))
  have fewer : ∀ expr ∈ (spec.withJacobians transitionJacobian observationJacobian).exprs,
      expr.SymbolsIn spec.Mentions := by
    have mentioned : ∀ expr ∈ spec.exprs, expr.SymbolsIn spec.Mentions :=
      fun expr member name found => ⟨expr, member, found⟩
    have supplied : ∀ (found : Option (Grid (Expr Float))) (grid : Grid (Expr Float)),
        (∀ expr ∈ (found.map Grid.rowMajor).getD [], expr.SymbolsIn spec.Mentions) →
          (∀ expr ∈ grid.rowMajor, expr.SymbolsIn spec.Mentions) →
            ∀ expr ∈ (found.getD grid).rowMajor, expr.SymbolsIn spec.Mentions := by
      intro found grid known inner
      cases found with
      | none => exact inner
      | some found => exact known
    simp only [exprs, List.forall_mem_append] at mentioned ⊢
    obtain ⟨⟨⟨⟨transition, observation⟩, F⟩, H⟩, post⟩ := mentioned
    exact ⟨⟨⟨⟨transition, observation⟩, supplied _ _ F inner⟩, supplied _ _ H inner'⟩, post⟩
  constructor
  · rintro ⟨expr, member, found⟩
    exact fewer expr member name found
  · rintro ⟨expr, member, found⟩
    exact ⟨expr, more expr member, found⟩

/-- The parameters of a description are not changed by Jacobians that only have its
symbols. -/
theorem parameters_withJacobians
    (inner : ∀ expr ∈ transitionJacobian.rowMajor, expr.SymbolsIn spec.Mentions)
    (inner' : ∀ expr ∈ observationJacobian.rowMajor, expr.SymbolsIn spec.Mentions)
    (state : List String) :
    (spec.withJacobians transitionJacobian observationJacobian).parameters state =
      spec.parameters state := by
  refine NameSet.eq_of_mem_iff fun name => ?_
  rw [mem_parameters, mem_parameters, mentions_withJacobians inner inner']

end Symbols

section Layouts

/-- The Jacobian that is computed only has symbols of its outputs. -/
theorem symbolsIn_computed {outputs : List (Expr Float)}
    (member : ∀ expr ∈ outputs, expr ∈ spec.exprs) :
    ∀ expr ∈ (jacobianBy state none outputs).rowMajor, expr.SymbolsIn spec.Mentions := by
  refine symbolsIn_jacobianBy (List.forall_mem_nil _) fun expr found name occurs => ?_
  exact ⟨expr, member expr found, occurs⟩

/-- The layout of a description stays the same when the Jacobians that would be computed
are supplied. -/
theorem layout_withJacobians (symbols : spec.state = state.map .symbol) (options : HeaderOptions)
    (fileName : String) :
    (spec.withJacobians (jacobianBy state none spec.transition)
      (jacobianBy state none spec.observation)).layout options fileName =
        spec.layout options fileName := by
  have transition : ∀ expr ∈ spec.transition, expr ∈ spec.exprs := by
    intro expr member
    simp only [exprs, List.mem_append, member, true_or]
  have observation : ∀ expr ∈ spec.observation, expr ∈ spec.exprs := by
    intro expr member
    simp only [exprs, List.mem_append, member, true_or, or_true]
  have parameters := parameters_withJacobians (@symbolsIn_computed spec state _ transition)
    (@symbolsIn_computed spec state _ observation)
  have supplied : ∀ (other : HeaderSpec) (found : Option (Grid (Expr Float)))
      (outputs : List (Expr Float)),
      other.jacobianOr (some (found.getD (jacobianBy state none outputs))) outputs =
        spec.jacobianOr found outputs := by
    intro other found outputs
    rw [jacobianOr_of_state symbols]
    cases found <;> rfl
  unfold HeaderSpec.layout
  simp only [parameters]
  simp only [withJacobians, supplied]
  rfl

/-- No constant is left in a Jacobian that is computed where the constants are
substituted. -/
theorem map_apply_computed (resolved : Substitution.ofConstants spec.constants = .ok substitution)
    (state : List String) (outputs : List (Expr Float)) :
    (jacobianBy state none (outputs.map substitution.apply)).map substitution.apply =
      jacobianBy state none (outputs.map substitution.apply) := by
  refine Grid.map_eq_self fun entry member => Substitution.apply_of_free resolved ?_
  refine symbolsIn_jacobianBy (List.forall_mem_nil _) (fun expr found => ?_) entry member
  obtain ⟨source, _, rfl⟩ := List.mem_map.1 found
  exact (Substitution.expands_apply resolved source).symbolsIn

/-- The Jacobian by symbols. -/
theorem jacobian_of_symbols {inputs : List (Expr Float)} (symbols : inputs = state.map .symbol)
    (outputs : List (Expr Float)) : jacobian outputs inputs = .ok (jacobianBy state none outputs) :=
  mapError_eq_ok.1 (@jacobianOr_of_state (.ofFilter inputs [] []) state symbols none outputs)

/-- Expressions that are symbols are those of their names. -/
theorem exists_map_symbol {exprs : List (Expr Float)}
    (named : ∀ expr ∈ exprs, ∃ name, expr = .symbol name) :
    ∃ names : List String, exprs = names.map .symbol := by
  have listed : exprs ∈ Set.range (List.map (Expr.symbol : String → Expr Float)) := by
    rw [Set.range_list_map]
    exact fun expr member => (named expr member).imp fun _ => Eq.symm
  exact listed.imp fun _ => Eq.symm

/-- Composing a description gives the same header, or the same error, when each Jacobian
that it leaves out is supplied as it would be computed. -/
theorem compose_withJacobians (acyclic : spec.constants.IsAcyclic) :
    ∃ substitution, Substitution.ofConstants spec.constants = .ok substitution ∧
      ((∀ expr ∈ spec.state, ∃ name, substitution.apply expr = .symbol name) →
        ∃ transitionJacobian observationJacobian,
          jacobian (spec.transition.map substitution.apply) (spec.state.map substitution.apply) =
              .ok transitionJacobian ∧
            jacobian (spec.observation.map substitution.apply)
                (spec.state.map substitution.apply) = .ok observationJacobian ∧
            ∀ options fileName,
              (spec.withJacobians transitionJacobian observationJacobian).compose options fileName =
                spec.compose options fileName) := by
  obtain ⟨substitution, resolved⟩ := Substitution.exists_ofConstants acyclic
  refine ⟨substitution, resolved, fun named => ?_⟩
  obtain ⟨state, symbols⟩ := exists_map_symbol (List.forall_mem_map.2 named)
  have size : spec.state.length = state.length := by
    have lengths := congrArg List.length symbols
    rwa [List.length_map, List.length_map] at lengths
  have shape : ∀ outputs : List (Expr Float),
      (jacobianBy state none (outputs.map substitution.apply)).shape =
        (outputs.length, spec.state.length) := by
    intro outputs
    rw [size]
    exact (Grid.shape_tabulate _ _ _).trans (by rw [List.length_map])
  refine ⟨_, _, jacobian_of_symbols symbols _, jacobian_of_symbols symbols _,
    fun options fileName => ?_⟩
  have substituted := @substituted_withJacobians spec substitution _ _
    (map_apply_computed resolved state spec.transition)
    (map_apply_computed resolved state spec.observation)
  have resolved' : Substitution.ofConstants (spec.withJacobians
      (jacobianBy state none (spec.transition.map substitution.apply))
      (jacobianBy state none (spec.observation.map substitution.apply))).constants =
        .ok substitution := resolved
  have layout := @layout_withJacobians (spec.substituted substitution) state symbols options fileName
  rw [compose_of_resolved resolved', compose_of_resolved resolved, substituted,
    checkDimensions_withJacobians (shape _) (shape _)]
  exact congrArg (fun layout => do
    options.check
    spec.checkDimensions
    return (← layout).generate) layout

/-- Uniform motion has the same header with both Jacobians supplied, as two rows of two
columns and as one row of two. -/
theorem compose_withJacobians_of_uniformMotion :
    uniformMotion.constants.IsAcyclic ∧
      ∃ transitionJacobian observationJacobian header,
        jacobian (uniformMotion.transition.map uniformMotionConstants.apply)
            [.symbol "p", .symbol "v"] = .ok transitionJacobian ∧
          transitionJacobian.shape = (2, 2) ∧ observationJacobian.shape = (1, 2) ∧
          uniformMotion.compose .standard "model.h" = .ok header ∧
          (uniformMotion.withJacobians transitionJacobian observationJacobian).compose .standard
            "model.h" = .ok header := by
  have acyclic := Substitution.isAcyclic_of_ofConstants ofConstants_uniformMotion
  obtain ⟨header, composed⟩ := exists_compose_uniformMotion
  obtain ⟨substitution, resolved, supplied⟩ := compose_withJacobians acyclic
  obtain rfl := Except.ok.inj (ofConstants_uniformMotion.symm.trans resolved)
  have symbols : ∀ expr ∈ uniformMotion.state,
      ∃ name, uniformMotionConstants.apply expr = .symbol name :=
    List.forall_mem_cons.2 ⟨⟨"p", rfl⟩, List.forall_mem_singleton.2 ⟨"v", rfl⟩⟩
  obtain ⟨F, H, computed, computed', same⟩ := supplied symbols
  obtain rfl := Except.ok.inj (computed.symm.trans (@jacobian_of_symbols ["p", "v"] _ rfl _))
  obtain rfl := Except.ok.inj (computed'.symm.trans (@jacobian_of_symbols ["p", "v"] _ rfl _))
  exact ⟨acyclic, _, _, _, computed, rfl, rfl, composed, (same .standard "model.h").trans composed⟩

end Layouts

end HeaderSpec

end KalmanHeader
