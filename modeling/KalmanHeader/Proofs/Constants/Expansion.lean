import Mathlib.Logic.Relation
import KalmanHeader.Constants.Substitution
import KalmanHeader.Proofs.Calculus.Symbols

/-!
# What an expression with constants stands for

A key refers to the keys in its value, and an expression stands for the one in which
each key is expanded, down to the names that are no keys. That is a relation here,
which knows neither of an order of the keys nor of values that are kept. An expression
expands to one expression at most, without keys, and no key that occurs in it can be
reached from itself.
-/

namespace KalmanHeader.Constants

open KalmanHeader.Expr Relation

variable {ν : Type} {constants : Constants ν} {expr expanded expanded' : Expr ν}

/-- Whether `other` is a key that occurs in the value of the key `name`. -/
def RefersTo (constants : Constants ν) (name other : String) : Prop :=
  constants.contains other ∧ ∃ value, constants.find? name = some value ∧ value.contains other

/-- Whether `other` is reached from `name` through one or more references. -/
def Reaches (constants : Constants ν) : String → String → Prop :=
  TransGen constants.RefersTo

/-- Whether no key reaches itself. -/
def IsAcyclic (constants : Constants ν) : Prop :=
  ∀ name, ¬constants.Reaches name name

/-- Whether an expression stands for another one, with each key expanded. -/
inductive Expands (constants : Constants ν) : Expr ν → Expr ν → Prop
  | literal (value : ν) : Expands constants (.literal value) (.literal value)
  | free {name : String} (absent : constants.find? name = none) :
    Expands constants (.symbol name) (.symbol name)
  | key {name : String} {value expanded : Expr ν} (found : constants.find? name = some value)
    (inner : Expands constants value expanded) : Expands constants (.symbol name) expanded
  | neg {operand operand' : Expr ν} (inner : Expands constants operand operand') :
    Expands constants (.neg operand) (.neg operand')
  | binary {operation : Operation} {left left' right right' : Expr ν}
    (first : Expands constants left left') (second : Expands constants right right') :
    Expands constants (.binary operation left right) (.binary operation left' right')
  | call {function : Elementary} {argument argument' : Expr ν}
    (inner : Expands constants argument argument') :
    Expands constants (.call function argument) (.call function argument')

/-- A key that reaches another name has a value. -/
theorem Reaches.contains {name other : String} (reaches : constants.Reaches name other) :
    constants.contains name := by
  obtain ⟨_, ⟨_, _, found, _⟩, _⟩ := TransGen.head'_iff.1 reaches
  exact NameMap.contains_of_find?_eq_some found

/-- An expression expands in one way. -/
theorem Expands.unique (first : constants.Expands expr expanded)
    (second : constants.Expands expr expanded') : expanded = expanded' := by
  induction first generalizing expanded' with
  | literal value =>
    cases second
    rfl
  | free absent =>
    cases second with
    | free => rfl
    | key found =>
      rw [absent] at found
      contradiction
  | key found _ ih =>
    cases second with
    | free absent =>
      rw [absent] at found
      contradiction
    | key found' inner =>
      obtain rfl := Option.some.inj (found.symm.trans found')
      exact ih inner
  | neg _ ih =>
    cases second with
    | neg inner => rw [ih inner]
  | binary _ _ ihLeft ihRight =>
    cases second with
    | binary first second => rw [ihLeft first, ihRight second]
  | call _ ih =>
    cases second with
    | call inner => rw [ih inner]

/-- No key is left in an expanded expression. -/
theorem Expands.symbolsIn (expands : constants.Expands expr expanded) :
    expanded.SymbolsIn (constants.find? · = none) := by
  induction expands with
  | literal value => exact symbolsIn_literal value
  | free absent =>
    intro other found
    exact beq_iff_eq.1 found ▸ absent
  | key _ _ ih | neg _ ih | call _ ih => exact ih
  | binary _ _ ihLeft ihRight => exact symbolsIn_binary.2 ⟨ihLeft, ihRight⟩

/-- The symbols of an expanded expression come from the expression or from values of
constants. -/
theorem Expands.symbolsIn_of_values {allowed : String → Prop}
    (expands : constants.Expands expr expanded) (inner : expr.SymbolsIn allowed)
    (values : ∀ name value, constants.find? name = some value → value.SymbolsIn allowed) :
    expanded.SymbolsIn allowed := by
  induction expands with
  | literal value => exact symbolsIn_literal value
  | free absent => exact inner
  | key found _ ih => exact ih (values _ _ found)
  | neg _ ih | call _ ih => exact ih inner
  | binary _ _ ihLeft ihRight =>
    obtain ⟨inLeft, inRight⟩ := symbolsIn_binary.1 inner
    exact symbolsIn_binary.2 ⟨ihLeft inLeft, ihRight inRight⟩

/-- A key in an expression that expands does not reach itself. -/
theorem Expands.not_reaches (expands : constants.Expands expr expanded) :
    expr.SymbolsIn fun name => ¬constants.Reaches name name := by
  induction expands with
  | literal value => exact symbolsIn_literal value
  | @free name absent =>
    intro other found cycle
    obtain rfl : name = other := beq_iff_eq.1 found
    obtain ⟨_, ⟨_, value, found, _⟩, _⟩ := TransGen.head'_iff.1 cycle
    rw [absent] at found
    contradiction
  | @key name value _ found _ ih =>
    intro other same cycle
    obtain rfl : name = other := beq_iff_eq.1 same
    -- The first reference on the way leads to a key of the value, from which it goes on in
    -- a circle.
    obtain ⟨next, ⟨isKey, value', found', occurs⟩, back⟩ := TransGen.head'_iff.1 cycle
    obtain rfl := Option.some.inj (found.symm.trans found')
    exact ih next occurs (.tail' back ⟨isKey, value, found, occurs⟩)
  | neg _ ih | call _ ih => exact ih
  | binary _ _ ihLeft ihRight => exact symbolsIn_binary.2 ⟨ihLeft, ihRight⟩

/-- An expression without keys stands for itself. -/
theorem expands_self (free : expr.SymbolsIn (constants.find? · = none)) :
    constants.Expands expr expr := by
  induction expr with
  | literal value => exact .literal value
  | symbol name => exact .free (free name (beq_self_eq_true name))
  | neg operand ih => exact .neg (ih free)
  | binary operation left right ihLeft ihRight =>
    obtain ⟨freeLeft, freeRight⟩ := symbolsIn_binary.1 free
    exact .binary (ihLeft freeLeft) (ihRight freeRight)
  | call function argument ih => exact .call (ih free)

/-- Replacing each symbol by what it stands for expands an expression. -/
theorem expands_mapSymbols {replacement? : String → Option (Expr ν)}
    (expands : ∀ name, constants.Expands (.symbol name) ((replacement? name).getD (.symbol name)))
    (expr : Expr ν) : constants.Expands expr (expr.mapSymbols replacement?) := by
  induction expr with
  | literal value => exact .literal value
  | symbol name => exact expands name
  | neg operand ih => exact .neg ih
  | binary operation left right ihLeft ihRight => exact .binary ihLeft ihRight
  | call function argument ih => exact .call ih

end KalmanHeader.Constants
