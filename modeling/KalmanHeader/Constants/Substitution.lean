import KalmanHeader.Constants.Basic
import KalmanHeader.Expr.Grid
import KalmanHeader.Expr.MapSymbols

/-!
# Substituting constants

Constants are resolved before they are substituted: the value of each is
expanded until no key is left in it, so that a single replacement of symbols is
enough. What is found for a key is kept, so that no key is expanded twice.
Resolving fails exactly when a constant is needed for its own value.
-/

namespace KalmanHeader

/-- A constant that is needed for its own value. -/
structure CyclicConstant where
  name : String
  deriving DecidableEq, Repr

namespace Constants

variable {ν : Type}

/-- A computation that keeps the resolved values it has found. -/
abbrev Resolving (ν : Type) := StateT (NameMap (Expr ν)) (Except CyclicConstant)

/-- The resolved value of `key`, on the way to the values of the keys `visiting`. A
key is expanded only if no value is kept for it, and a name that is no key stands
for itself. -/
def resolve (constants : Constants ν) (visiting : List String) (key : String) :
    Resolving ν (Expr ν) := do
  match (← get).find? key with
  | some value => return value
  | none =>
    if _cycle : key ∈ visiting then throw ⟨key⟩
    else
      match _found : constants.find? key with
      | none => return .symbol key
      | some raw =>
        let value ← raw.mapSymbolsM fun name =>
          if constants.contains name then some <$> constants.resolve (key :: visiting) name
          else pure none
        modify (·.insert key value)
        return value
termination_by constants.unseenCount visiting
decreasing_by
  exact unseenCount_lt (NameMap.mem_keys_of_find?_eq_some _found) _cycle
    List.mem_cons_self fun _ => List.mem_cons_of_mem _

/-- Resolves the keys one after another. -/
def resolveAll (constants : Constants ν) (keys : List String) : Resolving ν Unit :=
  keys.forM fun key => discard (constants.resolve [] key)

end Constants

/-- Names with the expressions that replace them. -/
structure Substitution (ν : Type) where
  bindings : List (String × Expr ν)
  deriving DecidableEq, Repr

namespace Substitution

variable {ν : Type}

/-- The resolved values of `constants`. Keys are tried in increasing order, and
the first cycle met is the failure. -/
def ofConstants (constants : Constants ν) : Except CyclicConstant (Substitution ν) :=
  ((constants.resolveAll constants.keys.toList).run .empty).map fun result => ⟨result.2.entries⟩

/-- The replacement of a name. -/
def find? (substitution : Substitution ν) (name : String) : Option (Expr ν) :=
  substitution.bindings.lookup name

/-- The expression with its symbols replaced. -/
def apply (substitution : Substitution ν) (expr : Expr ν) : Expr ν :=
  expr.mapSymbols substitution.find?

end Substitution

/-- The expressions with the constants substituted. -/
def substitute {ν : Type} (constants : Constants ν) (exprs : List (Expr ν)) :
    Except CyclicConstant (List (Expr ν)) :=
  (Substitution.ofConstants constants).map fun substitution => exprs.map substitution.apply

end KalmanHeader
