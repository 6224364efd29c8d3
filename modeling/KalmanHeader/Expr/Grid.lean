import KalmanHeader.Expr.Basic

/-!
# Vectors and matrices of expressions

A grid is a list of rows of one length. The length is kept beside the rows, so
that a grid without rows still has a number of columns. The arrays of a header
are vectors or grids; either way their elements come row by row.
-/

namespace KalmanHeader

/-- Rows of `columns` entries each. -/
structure Grid (α : Type) where
  columns : Nat
  rows : List (List α)
  regular : ∀ row ∈ rows, row.length = columns

/-- A row that is not as long as the first one. -/
structure RaggedRow where
  index : Nat
  expected : Nat
  found : Nat
  deriving DecidableEq, Repr

namespace Grid

variable {α β : Type}

/-- Two grids with the same rows and as many columns are the same grid. -/
@[ext] theorem ext {left right : Grid α} (columns : left.columns = right.columns)
    (rows : left.rows = right.rows) : left = right := by
  cases left
  cases right
  cases columns
  cases rows
  rfl

instance [DecidableEq α] : DecidableEq (Grid α) := fun left right =>
  decidable_of_iff (left.columns = right.columns ∧ left.rows = right.rows)
    ⟨fun equal => ext equal.1 equal.2, fun equal => equal ▸ ⟨rfl, rfl⟩⟩

/-- The number of rows and of columns. -/
def shape (grid : Grid α) : Nat × Nat :=
  (grid.rows.length, grid.columns)

/-- The entries row by row. -/
def rowMajor (grid : Grid α) : List α :=
  grid.rows.flatten

/-- The grid with `f` of each entry in its place. -/
def map (f : α → β) (grid : Grid α) : Grid β where
  columns := grid.columns
  rows := grid.rows.map (List.map f)
  regular := by
    intro row member
    obtain ⟨source, sourceMember, rfl⟩ := List.mem_map.1 member
    simp [grid.regular source sourceMember]

/-- The grid whose entry in a row and a column is `entry` of their labels. -/
def tabulate {ρ γ : Type} (rows : List ρ) (columns : List γ) (entry : ρ → γ → α) : Grid α where
  columns := columns.length
  rows := rows.map fun row => columns.map (entry row)
  regular := by
    intro row member
    obtain ⟨label, _, rfl⟩ := List.mem_map.1 member
    simp

/-- The first of `rows` that does not have `columns` entries, where `index` rows
came before. -/
def raggedRow? (columns index : Nat) : List (List α) → Option RaggedRow
  | [] => none
  | row :: rows =>
    if row.length = columns then raggedRow? columns (index + 1) rows
    else some ⟨index, columns, row.length⟩

/-- Without a ragged row all rows have the same length. -/
theorem length_eq_of_raggedRow?_eq_none {columns index : Nat} {rows : List (List α)}
    (none : raggedRow? columns index rows = none) : ∀ row ∈ rows, row.length = columns := by
  induction rows generalizing index with
  | nil => simp
  | cons head tail ih =>
    unfold raggedRow? at none
    split at none
    · rename_i equal
      intro row member
      rcases List.mem_cons.1 member with rfl | member
      · exact equal
      · exact ih none row member
    · simp at none

/-- The length of the first row. -/
def firstLength (rows : List (List α)) : Nat :=
  (rows.head?.map List.length).getD 0

/-- The grid with the given rows, which have to be as long as the first of
them. -/
def ofRows (rows : List (List α)) : Except RaggedRow (Grid α) :=
  match ragged : raggedRow? (firstLength rows) 0 rows with
  | some row => .error row
  | none => .ok ⟨firstLength rows, rows, length_eq_of_raggedRow?_eq_none ragged⟩

end Grid

/-- A vector or a matrix of expressions. -/
inductive ExprArray (ν : Type) where
  | vector (elements : List (Expr ν))
  | matrix (grid : Grid (Expr ν))
  deriving DecidableEq

namespace ExprArray

variable {ν : Type}

/-- The number of rows and of columns. A vector is a column. -/
def shape : ExprArray ν → Nat × Nat
  | .vector elements => (elements.length, 1)
  | .matrix grid => grid.shape

/-- The elements in the order in which an initializer lists them. -/
def rowMajor : ExprArray ν → List (Expr ν)
  | .vector elements => elements
  | .matrix grid => grid.rowMajor

/-- The number of elements. -/
def size (array : ExprArray ν) : Nat :=
  array.rowMajor.length

/-- The array with `f` of each element in its place. -/
def map (f : Expr ν → Expr ν) : ExprArray ν → ExprArray ν
  | .vector elements => .vector (elements.map f)
  | .matrix grid => .matrix (grid.map f)

end ExprArray

end KalmanHeader
