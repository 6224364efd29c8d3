import KalmanHeader.Proofs.Calculus.Renaming
import KalmanHeader.Proofs.Constants.Resolution
import KalmanHeader.Proofs.Text.NameMap

/-!
# Renamed constants

Keys are resolved in the order of their names, so a renaming has them resolved in
another order. What an expression stands for does not depend on that order, and so it is
the same up to the renaming.
-/

namespace KalmanHeader

namespace Constants

variable {ν : Type} {relabel relabel' : String → String} {constants : Constants ν}
  {expr expanded : Expr ν}

/-- The constants with their keys and the symbols of their values renamed. -/
def renamed (constants : Constants ν) (relabel : String → String) : Constants ν :=
  .ofList (constants.entries.map fun entry => (relabel entry.1, entry.2.rename relabel))

/-- Renaming constants only depends on their keys and the symbols of their values. -/
theorem renamed_congr
    (same : ∀ entry ∈ constants.entries, relabel entry.1 = relabel' entry.1 ∧
      entry.2.SymbolsIn fun name => relabel name = relabel' name) :
    constants.renamed relabel = constants.renamed relabel' := by
  refine congrArg NameMap.ofList (List.map_congr_left fun entry member => ?_)
  obtain ⟨key, value⟩ := same entry member
  exact Prod.ext key (Expr.rename_congr value)

section Injective

variable (injective : Function.Injective relabel)

include injective

/-- The value of a name after renaming. -/
theorem find?_renamed_eq_lookup (constants : Constants ν) (name : String) :
    (constants.renamed relabel).find? name =
      (constants.entries.map fun entry => (relabel entry.1, entry.2.rename relabel)).lookup name := by
  have distinct : ((constants.entries.map Prod.fst).map relabel).Nodup :=
    List.Nodup.map injective (constants.increasing.imp String.ne_of_lt)
  rw [List.map_map] at distinct
  refine NameMap.find?_ofList ?_ name
  rw [List.map_map]
  exact distinct

/-- The value of a renamed key is renamed. -/
theorem find?_renamed (constants : Constants ν) (name : String) :
    (constants.renamed relabel).find? (relabel name) =
      (constants.find? name).map (Expr.rename relabel) :=
  (find?_renamed_eq_lookup injective constants _).trans (NameMap.lookup_map injective _ _ name)

/-- A key of renamed constants is a renamed key. -/
theorem exists_of_contains_renamed {name : String}
    (isKey : (constants.renamed relabel).contains name) : ∃ source, relabel source = name := by
  rw [NameMap.contains, find?_renamed_eq_lookup injective, Option.isSome_iff_exists] at isKey
  obtain ⟨_, found⟩ := isKey
  obtain ⟨before, after, entries, _⟩ := List.lookup_eq_some_iff.1 found
  have member := entries ▸ List.mem_append_right before List.mem_cons_self
  obtain ⟨entry, _, same⟩ := List.mem_map.1 member
  exact ⟨entry.1, congrArg Prod.fst same⟩

/-- What a renamed expression stands for. -/
theorem Expands.renamed (expands : constants.Expands expr expanded) :
    (constants.renamed relabel).Expands (expr.rename relabel) (expanded.rename relabel) := by
  induction expands with
  | literal value => exact .literal value
  | free absent => exact .free (by rw [find?_renamed injective, absent, Option.map_none])
  | key found _ ih => exact .key (by rw [find?_renamed injective, found, Option.map_some]) ih
  | neg _ ih => exact .neg ih
  | binary _ _ ihLeft ihRight => exact .binary ihLeft ihRight
  | call _ ih => exact .call ih

end Injective

end Constants

namespace Substitution

variable {ν : Type} {relabel : String → String} {constants : Constants ν}
  {substitution : Substitution ν}

/-- Where the constants are resolved, the renamed ones are, and what is substituted with
them is the renamed of what was substituted before. -/
theorem exists_ofConstants_renamed (injective : Function.Injective relabel)
    (resolved : ofConstants constants = .ok substitution) :
    ∃ substitution', ofConstants (constants.renamed relabel) = .ok substitution' ∧
      ∀ expr, substitution'.apply (expr.rename relabel) =
        (substitution.apply expr).rename relabel := by
  have expands := fun expr => (expands_apply resolved expr).renamed injective
  have acyclic : (constants.renamed relabel).IsAcyclic := by
    intro name cycle
    obtain ⟨source, rfl⟩ := Constants.exists_of_contains_renamed injective cycle.contains
    exact (expands (.symbol source)).not_reaches _ (beq_self_eq_true _) cycle
  obtain ⟨substitution', resolved'⟩ := exists_ofConstants acyclic
  exact ⟨substitution', resolved', fun expr => (expands_apply resolved' _).unique (expands expr)⟩

end Substitution

end KalmanHeader
