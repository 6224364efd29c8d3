import KalmanHeader.Proofs.Header.Renaming
import KalmanHeader.Proofs.Header.Supplied

/-!
# Constants come first

A header is composed in two parts: the constants are substituted into every expression of
the description, and the rest only sees the expressions that come out. So a description
with constants has the header, or the error, of the description without constants that is
left when they have been substituted, and that one mentions none of their keys.
-/

namespace KalmanHeader

/-- Where there are no constants, substituting them changes nothing. -/
theorem Substitution.apply_empty {ν : Type} (expr : Expr ν) :
    (⟨[]⟩ : Substitution ν).apply expr = expr := by
  have resolved : ofConstants (.empty : Constants ν) = .ok ⟨[]⟩ := rfl
  exact apply_of_free resolved fun name _ => NameMap.find?_empty name

namespace HeaderSpec

variable {spec : HeaderSpec} {substitution : Substitution Float}

/-- Substituting no constants into a description without constants leaves it. -/
theorem substituted_substituted (spec : HeaderSpec) (substitution : Substitution Float) :
    (spec.substituted substitution).substituted ⟨[]⟩ = spec.substituted substitution := by
  have exprs : (spec.mapExprs substitution.apply).mapExprs (⟨[]⟩ : Substitution Float).apply =
      spec.mapExprs substitution.apply := by
    rw [mapExprs_mapExprs]
    exact congrArg spec.mapExprs (funext fun expr => Substitution.apply_empty _)
  exact congrArg (fun found : HeaderSpec => { found with constants := .empty }) exprs

/-- The arrays fit together as they did before the constants were substituted. -/
theorem checkDimensions_substituted (spec : HeaderSpec) (substitution : Substitution Float) :
    (spec.substituted substitution).checkDimensions = spec.checkDimensions :=
  checkDimensions_mapExprs substitution.apply spec

/-- No key of the constants occurs where they are substituted. -/
theorem not_occurs_substituted
    (resolved : Substitution.ofConstants spec.constants = .ok substitution) {key : String}
    (isKey : spec.constants.contains key) : ¬(spec.substituted substitution).Occurs key := by
  rintro (⟨_, member, found⟩ | ⟨_, member, _⟩)
  · have exprs : (spec.substituted substitution).state ++ (spec.substituted substitution).exprs =
        (spec.state ++ spec.exprs).map substitution.apply := by
      rw [exprs_substituted, List.map_append]
      rfl
    rw [exprs] at member
    obtain ⟨expr, _, rfl⟩ := List.mem_map.1 member
    exact Substitution.not_contains_apply resolved expr isKey found
  · exact List.not_mem_nil member

/-- Constants without a circle only act by substitution: the description in which they have
been substituted has no keys left, and composing it gives the same header or the same
error. -/
theorem compose_substituted (acyclic : spec.constants.IsAcyclic) :
    ∃ substitution, Substitution.ofConstants spec.constants = .ok substitution ∧
      (∀ key, spec.constants.contains key → ¬(spec.substituted substitution).Occurs key) ∧
      ∀ options fileName, (spec.substituted substitution).compose options fileName =
        spec.compose options fileName := by
  obtain ⟨substitution, resolved⟩ := Substitution.exists_ofConstants acyclic
  refine ⟨substitution, resolved, fun key => not_occurs_substituted resolved,
    fun options fileName => ?_⟩
  have resolved' : Substitution.ofConstants (spec.substituted substitution).constants =
      .ok ⟨[]⟩ := rfl
  rw [compose_of_resolved resolved', compose_of_resolved resolved, substituted_substituted,
    checkDimensions_substituted]

/-- A point that is described through constants everywhere: its state is the name of another
symbol, its Jacobian is supplied, and a further array has a matrix of constants. -/
def decaying : HeaderSpec where
  state := [.symbol "height"]
  transition := [.mul (.symbol "rate") (.symbol "p")]
  observation := [.div (.symbol "height") (.symbol "scale")]
  transitionJacobian := some ⟨1, [[.symbol "rate"]], by simp⟩
  observationJacobian := none
  constants := .ofList [("height", .symbol "p"), ("rate", .neg (.symbol "loss"))]
  post := [("q", .matrix ⟨2, [[.symbol "rate", .symbol "height"]], by simp⟩)]

/-- The same point without constants. -/
def decayingResolved : HeaderSpec where
  state := [.symbol "p"]
  transition := [.mul (.neg (.symbol "loss")) (.symbol "p")]
  observation := [.div (.symbol "p") (.symbol "scale")]
  transitionJacobian := some ⟨1, [[.neg (.symbol "loss")]], by simp⟩
  observationJacobian := none
  constants := .empty
  post := [("q", .matrix ⟨2, [[.neg (.symbol "loss"), .symbol "p"]], by simp⟩)]

/-- The decaying point has the same header whether its constants are substituted or not. -/
theorem compose_substituted_of_decaying :
    decaying.constants.IsAcyclic ∧ ∃ header,
      decayingResolved.compose .standard "model.h" = .ok header ∧
        decaying.compose .standard "model.h" = .ok header ∧
        header.parameters = ["loss", "scale"] := by
  have resolved : Substitution.ofConstants decaying.constants =
      .ok ⟨[("height", .symbol "p"), ("rate", .neg (.symbol "loss"))]⟩ := by cbv
  have acyclic := Substitution.isAcyclic_of_ofConstants resolved
  have plain : Substitution.ofConstants decayingResolved.constants = .ok ⟨[]⟩ := rfl
  have named : (decayingResolved.substituted ⟨[]⟩).stateNames = .ok ["p"] := rfl
  obtain ⟨header, composed, parameters⟩ :=
    @exists_compose_of_claim decayingResolved .standard "model.h" _ _ (by decide) (by decide)
      plain named (by decide)
  obtain ⟨substitution, resolved', _, same⟩ := compose_substituted acyclic
  obtain rfl := Except.ok.inj (resolved.symm.trans resolved')
  exact ⟨acyclic, header, composed, (same .standard "model.h").symm.trans composed,
    parameters.trans (by decide)⟩

end HeaderSpec

end KalmanHeader
