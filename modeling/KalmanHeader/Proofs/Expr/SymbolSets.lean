import Mathlib.Data.List.Sort
import KalmanHeader.Expr.Basic

/-!
# The symbols of expressions as sets

Collecting the symbols of trees one after another gives the names that occur in any
of them and nothing else.
-/

namespace KalmanHeader

/-- Sets with the same members are the same set, since the members come in order. -/
theorem NameSet.eq_of_mem_iff {left right : NameSet}
    (same : ∀ name, name ∈ left ↔ name ∈ right) : left = right :=
  NameSet.ext (left.increasing.eq_of_mem_iff right.increasing same)

namespace Expr

variable {ν : Type} {name : String}

/-- Collecting adds the symbols of the tree. -/
theorem mem_collectSymbols {expr : Expr ν} {names : NameSet} :
    name ∈ expr.collectSymbols names ↔ expr.contains name ∨ name ∈ names := by
  induction expr generalizing names with
  | literal value => simp [collectSymbols, contains]
  | symbol found =>
    rw [collectSymbols, contains, NameSet.mem_insert, beq_iff_eq, eq_comm]
  | neg operand ih | call function operand ih =>
    rw [collectSymbols, contains]
    exact ih
  | binary operation left right ihLeft ihRight =>
    rw [collectSymbols, contains, ihRight, ihLeft, Bool.or_eq_true, or_left_comm, or_assoc]

/-- The symbols of a tree are those that occur in it. -/
theorem mem_symbols {expr : Expr ν} : name ∈ expr.symbols ↔ expr.contains name :=
  mem_collectSymbols.trans (or_iff_left NameSet.not_mem_empty)

/-- Collecting one tree after the other. -/
theorem mem_foldl_collectSymbols {exprs : List (Expr ν)} {names : NameSet} :
    name ∈ exprs.foldl (fun names expr => expr.collectSymbols names) names ↔
      (∃ expr ∈ exprs, expr.contains name) ∨ name ∈ names := by
  induction exprs generalizing names with
  | nil => simp
  | cons first others ih =>
    rw [List.foldl_cons, ih, mem_collectSymbols, or_left_comm, ← or_assoc]
    simp only [List.mem_cons, exists_eq_or_imp]

/-- The symbols of all trees are those of each. -/
theorem mem_symbolsOfAll {exprs : List (Expr ν)} :
    name ∈ symbolsOfAll exprs ↔ ∃ expr ∈ exprs, expr.contains name := by
  rw [symbolsOfAll, mem_foldl_collectSymbols]
  exact or_iff_left NameSet.not_mem_empty

end Expr

end KalmanHeader
