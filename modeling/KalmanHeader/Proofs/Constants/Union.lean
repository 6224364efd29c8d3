import KalmanHeader.Proofs.Constants.Meaning
import KalmanHeader.Proofs.Expr.SymbolSets
import KalmanHeader.Proofs.Text.NameMap

/-!
# Constants in two maps

Constants may be kept in two maps without a common key, where the values of the first
refer to the keys of the second but not the other way round. Expanding by the first map
and then by the second is expanding by both at once. So the union has no circle if
neither map has one, and it does not matter in which order two maps that do not refer to
each other are substituted.
-/

namespace KalmanHeader

open KalmanHeader.Expr

variable {ν : Type}

namespace Constants

variable {first second : Constants ν} {expr middle expanded : Expr ν}

/-- The constants of two maps. -/
abbrev union (first second : Constants ν) : Constants ν :=
  NameMap.union first second

/-- Whether no value of the constants mentions a key of others. -/
def AvoidsKeys (constants others : Constants ν) : Prop :=
  ∀ name value, constants.find? name = some value → value.SymbolsIn (others.find? · = none)

/-- It is enough to look at the symbols of each value. -/
instance (constants others : Constants ν) : Decidable (constants.AvoidsKeys others) :=
  decidable_of_iff
    (∀ entry ∈ constants.entries, ∀ name ∈ entry.2.symbols.toList, others.contains name = false)
    ⟨fun avoids name value found other occurs => by
      have member := (NameMap.lookup_eq_some_iff constants.nodup_keys).1 found
      exact NameMap.contains_eq_false_iff.1
        (avoids _ member other (mem_symbols.2 occurs)),
    fun avoids entry member name occurs => by
      have found := (NameMap.lookup_eq_some_iff constants.nodup_keys).2 member
      have occurs := mem_symbols.1 occurs
      exact NameMap.contains_eq_false_iff.2 (avoids entry.1 entry.2 found name occurs)⟩

section Union

variable (apart : first.Apart second) (avoids : second.AvoidsKeys first)

include apart avoids

/-- Without keys of the first map, an expression stands for the same in the union as in the
second map. -/
theorem Expands.union_right (expands : second.Expands expr expanded)
    (free : expr.SymbolsIn (first.find? · = none)) : (first.union second).Expands expr expanded := by
  induction expands with
  | literal value => exact .literal value
  | @free name absent =>
    have missing : first.find? name = none := free name (beq_self_eq_true name)
    exact .free (by rw [NameMap.find?_union apart, missing, absent, Option.none_or])
  | @key name value _ found _ ih =>
    have missing : first.find? name = none := free name (beq_self_eq_true name)
    refine .key ?_ (ih (avoids name value found))
    rw [NameMap.find?_union apart, missing, found, Option.none_or]
  | neg _ ih => exact .neg (ih free)
  | binary _ _ ihLeft ihRight =>
    obtain ⟨freeLeft, freeRight⟩ := symbolsIn_binary.1 free
    exact .binary (ihLeft freeLeft) (ihRight freeRight)
  | call _ ih => exact .call (ih free)

/-- What an expression stands for in the first map stands in the second map for what the
expression stands for in the union. -/
theorem Expands.union (expands : first.Expands expr middle)
    (further : second.Expands middle expanded) : (first.union second).Expands expr expanded := by
  induction expands generalizing expanded with
  | literal value =>
    cases further
    exact .literal value
  | @free name absent =>
    refine further.union_right apart avoids fun other found => ?_
    obtain rfl : name = other := beq_iff_eq.1 found
    exact absent
  | key found _ ih =>
    refine .key ?_ (ih further)
    rw [NameMap.find?_union apart, found, Option.some_or]
  | neg _ ih =>
    cases further with
    | neg inner => exact .neg (ih inner)
  | binary _ _ ihLeft ihRight =>
    cases further with
    | binary left right => exact .binary (ihLeft left) (ihRight right)
  | call _ ih =>
    cases further with
    | call inner => exact .call (ih inner)

end Union

end Constants

namespace Substitution

variable {first second : Constants ν} {substitution substitution' : Substitution ν}

/-- Where two maps are resolved and the second avoids the keys of the first, their union is
resolved, and substituting it is substituting one after the other. -/
theorem exists_ofConstants_union
    (apart : first.Apart second) (avoids : second.AvoidsKeys first)
    (resolved : ofConstants first = .ok substitution)
    (resolved' : ofConstants second = .ok substitution') :
    ∃ both, ofConstants (first.union second) = .ok both ∧
      ∀ expr, both.apply expr = substitution'.apply (substitution.apply expr) := by
  have expands : ∀ expr, (first.union second).Expands expr
      (substitution'.apply (substitution.apply expr)) := fun expr =>
    (expands_apply resolved expr).union apart avoids (expands_apply resolved' _)
  have acyclic : (first.union second).IsAcyclic := fun name =>
    (expands (.symbol name)).not_reaches name (beq_self_eq_true name)
  obtain ⟨both, found⟩ := exists_ofConstants acyclic
  exact ⟨both, found, fun expr => (expands_apply found expr).unique (expands expr)⟩

end Substitution

/-- Substituting resolved constants. -/
theorem substitute_of_resolved {constants : Constants ν} {substitution : Substitution ν}
    (resolved : Substitution.ofConstants constants = .ok substitution) (exprs : List (Expr ν)) :
    substitute constants exprs = .ok (exprs.map substitution.apply) := by
  rw [substitute, resolved]
  rfl

section Substitute

variable {first second : Constants ν} (apart : first.Apart second)

include apart

/-- Substituting the union of two resolved maps is substituting one after the other. -/
theorem substitute_union_eq {substitution substitution' both : Substitution ν}
    (avoids : second.AvoidsKeys first)
    (resolved : Substitution.ofConstants first = .ok substitution)
    (resolved' : Substitution.ofConstants second = .ok substitution')
    (found : Substitution.ofConstants (first.union second) = .ok both) (exprs : List (Expr ν)) :
    (substitute first exprs >>= substitute second) = .ok (exprs.map both.apply) := by
  obtain ⟨both', found', same⟩ :=
    Substitution.exists_ofConstants_union apart avoids resolved resolved'
  obtain rfl := Except.ok.inj (found.symm.trans found')
  rw [substitute_of_resolved resolved]
  change substitute second (exprs.map substitution.apply) = _
  rw [substitute_of_resolved resolved', List.map_map]
  exact congrArg Except.ok (List.map_congr_left fun expr _ => (same expr).symm)

/-- Substituting two maps of constants one after the other is substituting their union, if
they have no key in common, neither has a circle, and no value of the second mentions a key
of the first. If no value of the first mentions a key of the second either, they can be
substituted in any order. -/
theorem substitute_union (acyclic : first.IsAcyclic) (acyclic' : second.IsAcyclic)
    (avoids : second.AvoidsKeys first) :
    (first.union second).IsAcyclic ∧ ∀ exprs, ∃ results,
      substitute (first.union second) exprs = .ok results ∧
        (substitute first exprs >>= substitute second) = .ok results ∧
        (first.AvoidsKeys second → (substitute second exprs >>= substitute first) = .ok results) := by
  obtain ⟨substitution, resolved⟩ := Substitution.exists_ofConstants acyclic
  obtain ⟨substitution', resolved'⟩ := Substitution.exists_ofConstants acyclic'
  obtain ⟨both, found, _⟩ :=
    Substitution.exists_ofConstants_union apart avoids resolved resolved'
  have found' : Substitution.ofConstants (second.union first) = .ok both := by
    rw [Constants.union, ← NameMap.union_comm apart, found]
  refine ⟨Substitution.isAcyclic_of_ofConstants found, fun exprs => ⟨exprs.map both.apply, ?_, ?_, ?_⟩⟩
  · exact substitute_of_resolved found exprs
  · exact substitute_union_eq apart avoids resolved resolved' found exprs
  · exact fun avoids' => substitute_union_eq apart.symm avoids' resolved' resolved found' exprs

end Substitute

namespace Constants

/-- A load over a square area. -/
def derived : Constants Float :=
  .ofList [("area", .mul (.symbol "side") (.symbol "side")),
    ("load", .div (.symbol "mass") (.symbol "area"))]

/-- The side of a square by half of it. -/
def measured : Constants Float :=
  .ofList [("half", .symbol "r"), ("side", .add (.symbol "half") (.symbol "half"))]

/-- A mass by a weight. -/
def weighed : Constants Float :=
  .ofList [("mass", .neg (.symbol "weight"))]

/-- The derived constants refer to the measured ones through two levels and are substituted
with them or before them; the mass is substituted before or after the measured ones. -/
theorem substitute_union_of_derived :
    (derived.Apart measured ∧ measured.AvoidsKeys derived ∧ (derived.union measured).IsAcyclic ∧
      (substitute derived [.symbol "load"] >>= substitute measured) =
        substitute (derived.union measured) [.symbol "load"] ∧
      substitute (derived.union measured) [.symbol "load"] =
        .ok [.div (.symbol "mass") (.mul (.add (.symbol "r") (.symbol "r"))
          (.add (.symbol "r") (.symbol "r")))]) ∧
      weighed.Apart measured ∧ measured.AvoidsKeys weighed ∧ weighed.AvoidsKeys measured ∧
        (substitute weighed [.symbol "mass", .symbol "half"] >>= substitute measured) =
          (substitute measured [.symbol "mass", .symbol "half"] >>= substitute weighed) := by
  have resolved : Substitution.ofConstants derived =
      .ok ⟨[("area", .mul (.symbol "side") (.symbol "side")),
        ("load", .div (.symbol "mass") (.mul (.symbol "side") (.symbol "side")))]⟩ := by
    with_unfolding_all rfl
  have resolved' : Substitution.ofConstants measured =
      .ok ⟨[("half", .symbol "r"), ("side", .add (.symbol "r") (.symbol "r"))]⟩ := by
    with_unfolding_all rfl
  have resolved'' : Substitution.ofConstants weighed = .ok ⟨[("mass", .neg (.symbol "weight"))]⟩ := by
    with_unfolding_all rfl
  have acyclic := Substitution.isAcyclic_of_ofConstants resolved
  have acyclic' := Substitution.isAcyclic_of_ofConstants resolved'
  have acyclic'' := Substitution.isAcyclic_of_ofConstants resolved''
  have apart : derived.Apart measured := by decide
  have avoids : measured.AvoidsKeys derived := by decide
  have apart' : weighed.Apart measured := by decide
  have avoids' : measured.AvoidsKeys weighed := by decide
  have avoids'' : weighed.AvoidsKeys measured := by decide
  obtain ⟨circleFree, results⟩ := substitute_union apart acyclic acyclic' avoids
  obtain ⟨_, results'⟩ := substitute_union apart' acyclic'' acyclic' avoids'
  obtain ⟨found, together, after, _⟩ := results [.symbol "load"]
  obtain ⟨found', _, after', before'⟩ := results' [.symbol "mass", .symbol "half"]
  refine ⟨⟨apart, avoids, circleFree, after.trans together.symm, ?_⟩, apart', avoids', avoids'',
    after'.trans (before' avoids'').symm⟩
  rw [together, ← after, substitute_of_resolved resolved]
  exact substitute_of_resolved resolved' _

end Constants

end KalmanHeader
