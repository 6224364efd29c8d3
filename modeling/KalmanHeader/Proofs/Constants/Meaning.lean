import Mathlib.Logic.ExistsUnique
import KalmanHeader.Proofs.Constants.Resolution

/-!
# What a substitution means

Constants are definitions: each key stands for the value that its own expression has
where all keys stand for theirs. For constants without a circle there is one such way
to read the keys, and substituting the constants into an expression gives an expression
without keys that has the same value without knowing of them.
-/

namespace KalmanHeader

open KalmanHeader.Expr

variable {ν : Type}

/-- Replacing symbols and then giving the others values is giving each symbol the value of
what replaces it. -/
theorem Expr.eval_mapSymbols [Scalar ν] (replacement? : String → Option (Expr ν))
    (assignment : String → ν) (expr : Expr ν) :
    (expr.mapSymbols replacement?).eval assignment =
      expr.eval fun name => ((replacement? name).getD (.symbol name)).eval assignment := by
  induction expr with
  | literal value => rfl
  | symbol name => rfl
  | neg operand ih => rw [mapSymbols, eval, eval, ih]
  | binary operation left right ihLeft ihRight => rw [mapSymbols, eval, eval, ihLeft, ihRight]
  | call function argument ih => rw [mapSymbols, eval, eval, ih]

namespace Constants

variable {constants : Constants ν} {expr expanded : Expr ν}

/-- Whether an assignment reads the constants as definitions: each key has the value that
its own expression has under the same assignment, and any other name has the value that
`assignment` gives it. -/
structure Defines [Scalar ν] (constants : Constants ν) (assignment defined : String → ν) :
    Prop where
  key : ∀ name value, constants.find? name = some value → defined name = value.eval defined
  free : ∀ name, constants.find? name = none → defined name = assignment name

/-- An expression has the value of what it stands for. -/
theorem Expands.eval_eq [Scalar ν] {assignment defined : String → ν}
    (expands : constants.Expands expr expanded) (defines : constants.Defines assignment defined) :
    expanded.eval assignment = expr.eval defined := by
  induction expands with
  | literal value => rfl
  | @free name absent => exact (defines.free name absent).symm
  | @key name value _ found _ ih => exact ih.trans (defines.key name value found).symm
  | neg _ ih => rw [eval, eval, ih]
  | binary _ _ ihLeft ihRight => rw [eval, eval, ihLeft, ihRight]
  | call _ ih => rw [eval, eval, ih]

end Constants

namespace Substitution

variable {constants : Constants ν} {substitution : Substitution ν}

/-- No key is left where the constants are substituted. -/
theorem not_contains_apply (resolved : ofConstants constants = .ok substitution) (expr : Expr ν)
    {key : String} (isKey : constants.contains key) : ¬(substitution.apply expr).contains key := by
  intro found
  have absent := (expands_apply resolved expr).symbolsIn key found
  rw [NameMap.contains_eq_false_iff.2 absent] at isKey
  contradiction

/-- Constants are substituted all at once. -/
theorem apply_apply (resolved : ofConstants constants = .ok substitution) (expr : Expr ν) :
    substitution.apply (substitution.apply expr) = substitution.apply expr := by
  have free := (expands_apply resolved expr).symbolsIn
  exact (expands_apply resolved _).unique (Constants.expands_self free)

/-- Giving each name the value of what is substituted for it reads the constants as
definitions. -/
theorem defines_apply [Scalar ν] (resolved : ofConstants constants = .ok substitution)
    (assignment : String → ν) :
    constants.Defines assignment fun name =>
      (substitution.apply (.symbol name)).eval assignment where
  key name value found := by
    have same : substitution.apply (.symbol name) = substitution.apply value :=
      (expands_apply resolved _).unique (.key found (expands_apply resolved value))
    rw [same]
    exact eval_mapSymbols substitution.find? assignment value
  free name absent := by
    have same : substitution.apply (.symbol name) = .symbol name :=
      (expands_apply resolved _).unique (.free absent)
    rw [same]
    rfl

/-- Constants without a circle can be substituted. No key is left then, so that it makes no
difference to substitute them twice, and expressions keep the values that they have where
the keys are read as definitions, for which there is exactly one way. -/
theorem apply_means [Scalar ν] (acyclic : constants.IsAcyclic) :
    ∃ substitution, ofConstants constants = .ok substitution ∧
      (∀ expr, (∀ key, constants.contains key → ¬(substitution.apply expr).contains key) ∧
        substitution.apply (substitution.apply expr) = substitution.apply expr) ∧
      ∀ assignment : String → ν, (∃! defined, constants.Defines assignment defined) ∧
        ∀ defined, constants.Defines assignment defined → ∀ expr,
          (substitution.apply expr).eval assignment = expr.eval defined := by
  obtain ⟨substitution, resolved⟩ := exists_ofConstants acyclic
  refine ⟨substitution, resolved, fun expr => ?_, fun assignment => ?_⟩
  · exact ⟨fun _ => not_contains_apply resolved expr, apply_apply resolved expr⟩
  · have keeps : ∀ defined, constants.Defines assignment defined → ∀ expr,
        (substitution.apply expr).eval assignment = expr.eval defined :=
      fun _ defines expr => (expands_apply resolved expr).eval_eq defines
    refine ⟨⟨_, defines_apply resolved assignment, fun other defines => ?_⟩, keeps⟩
    exact funext fun name => (keeps other defines (.symbol name)).symm

/-- Constants of which one is defined through another and through the same as that one. -/
def shared : Constants Float :=
  .ofList [("a", .mul (.symbol "b") (.symbol "c")), ("b", .add (.symbol "c") (.symbol "y")),
    ("c", .literal 2)]

/-- Constants that share a definition are substituted through all levels. -/
theorem apply_means_of_shared :
    shared.IsAcyclic ∧ ∃ substitution, ofConstants shared = .ok substitution ∧
      substitution.apply (.sub (.symbol "x") (.symbol "a")) =
        .sub (.symbol "x") (.mul (.add (.literal 2) (.symbol "y")) (.literal 2)) ∧
      ∀ assignment : String → Float, ∃ defined, shared.Defines assignment defined ∧
        (Expr.sub (.symbol "x") (.mul (.add (.literal 2) (.symbol "y")) (.literal 2))).eval
          assignment = (Expr.sub (.symbol "x") (.symbol "a")).eval defined := by
  have resolved : ofConstants shared = .ok ⟨[
      ("a", .mul (.add (.literal 2) (.symbol "y")) (.literal 2)),
      ("b", .add (.literal 2) (.symbol "y")), ("c", .literal 2)]⟩ := by
    with_unfolding_all rfl
  have acyclic := isAcyclic_of_ofConstants resolved
  obtain ⟨substitution, resolved', _, means⟩ := apply_means acyclic
  obtain rfl := Except.ok.inj (resolved.symm.trans resolved')
  refine ⟨acyclic, _, resolved, rfl, fun assignment => ?_⟩
  obtain ⟨⟨defined, defines, _⟩, keeps⟩ := means assignment
  exact ⟨defined, defines, keeps defined defines (.sub (.symbol "x") (.symbol "a"))⟩

end Substitution

end KalmanHeader
