import KalmanHeader.Proofs.Calculus.Stability
import KalmanHeader.Proofs.Expr.Grid

/-!
# Jacobians hold derivatives

A Jacobian by symbols has a row for each output and a column for each symbol, and the
entry in a row and a column is the derivative of that output by that symbol, tree for
tree. Where an input is no symbol there is no Jacobian, and the first such input is what
is reported.
-/

namespace KalmanHeader

namespace Jacobian

variable {ν : Type}

/-- Either all inputs are symbols and their names are found, or the first that is none is
reported, at its place among the inputs. -/
theorem targetsFrom_cases (index : Nat) (inputs : List (Expr ν)) :
    (∃ names : List String, inputs = names.map .symbol ∧ targetsFrom index inputs = .ok names) ∨
      ∃ (before : List String) (expr : Expr ν) (after : List (Expr ν)),
        inputs = before.map .symbol ++ expr :: after ∧ expr.symbol? = none ∧
          targetsFrom index inputs = .error ⟨index + before.length, expr⟩ := by
  induction inputs generalizing index with
  | nil => exact .inl ⟨[], rfl, rfl⟩
  | cons first others ih =>
    cases first with
    | symbol name =>
      rcases ih (index + 1) with ⟨names, rfl, found⟩ | ⟨before, expr, after, rfl, noSymbol, failed⟩
      · refine .inl ⟨name :: names, rfl, ?_⟩
        simp [targetsFrom, Expr.symbol?, found, Except.map]
      · refine .inr ⟨name :: before, expr, after, rfl, noSymbol, ?_⟩
        simp [targetsFrom, Expr.symbol?, failed, Except.map]
        omega
    | literal | neg | binary | call =>
      exact .inr ⟨[], _, others, rfl, rfl, by simp [targetsFrom, Expr.symbol?]⟩

end Jacobian

/-- A Jacobian is a table of plain derivatives, one for each output and each input, if all
inputs are symbols. If not, the failure is at the first that is none. -/
theorem jacobian_eq_diff (outputs inputs : List (Expr Float)) :
    (∃ names : List String, inputs = names.map .symbol ∧
      ∃ grid, jacobian outputs inputs = .ok grid ∧ grid.shape = (outputs.length, inputs.length) ∧
        ∀ row column, grid.cell? row column =
          (outputs[row]?).bind fun output => (names[column]?).map fun name => output.diff name) ∨
    ∃ (before : List String) (expr : Expr Float) (after : List (Expr Float)),
      inputs = before.map .symbol ++ expr :: after ∧ expr.symbol? = none ∧
        jacobian outputs inputs = .error ⟨before.length, expr⟩ := by
  rcases Jacobian.targetsFrom_cases 0 inputs with
    ⟨names, symbols, found⟩ | ⟨before, expr, after, split, noSymbol, failed⟩
  · refine .inl ⟨names, symbols, _, jacobian_of_targets found outputs, ?_, fun row column => ?_⟩
    · rw [Grid.shape_tabulate, symbols, List.length_map]
    · exact Grid.cell?_tabulate ..
  · refine .inr ⟨before, expr, after, split, noSymbol, ?_⟩
    rw [jacobian, jacobianWith, Jacobian.targets, failed, Nat.zero_add]
    rfl

end KalmanHeader
