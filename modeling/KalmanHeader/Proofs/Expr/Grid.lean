import KalmanHeader.Expr.Grid

/-!
# The entries of arrays

The entry of an array in a row and a column, and the place that it has when the
entries come row by row: for arrays with `n` columns the entry at place `k` is in row
`k / n` and column `k % n`.
-/

namespace KalmanHeader

namespace Grid

variable {α β : Type}

section Rows

variable {rows : List (List α)}

/-- There is no ragged row where all rows have the length that is looked for. -/
theorem raggedRow?_eq_none {columns index : Nat} :
    raggedRow? columns index rows = none ↔ ∀ row ∈ rows, row.length = columns := by
  refine ⟨length_eq_of_raggedRow?_eq_none, fun regular => ?_⟩
  induction rows generalizing index with
  | nil => rfl
  | cons first others ih =>
    obtain ⟨head, tail⟩ := List.forall_mem_cons.1 regular
    rw [raggedRow?, if_pos head, ih tail]

/-- Rows make a grid when none of them is ragged, and it has as many columns as the first of
them, or none without rows. -/
theorem ofRows_eq_ok {grid : Grid α} :
    ofRows rows = .ok grid ↔ grid.rows = rows ∧ grid.columns = firstLength rows := by
  unfold ofRows
  split
  · rename_i ragged
    refine ⟨nofun, fun ⟨same, columns⟩ => ?_⟩
    rw [← columns, ← same, raggedRow?_eq_none.2 grid.regular] at ragged
    contradiction
  · constructor
    · intro made
      obtain rfl := Except.ok.inj made
      exact ⟨rfl, rfl⟩
    · rintro ⟨same, columns⟩
      exact congrArg Except.ok (Grid.ext columns.symm same.symm)

/-- Otherwise the ragged row that is found first is the error. -/
theorem ofRows_eq_error {ragged : RaggedRow} :
    ofRows rows = .error ragged ↔ raggedRow? (firstLength rows) 0 rows = some ragged := by
  unfold ofRows
  split
  · rename_i found
    rw [found, Except.error.injEq, Option.some.injEq]
  · rename_i regular
    exact ⟨nofun, fun found => nomatch regular.symm.trans found⟩

/-- A ragged row that is found does not have the length that is looked for, and all rows
before it do. -/
theorem exists_of_raggedRow?_eq_some {columns index : Nat} {ragged : RaggedRow}
    (found : raggedRow? columns index rows = some ragged) :
    ∃ before row after, rows = before ++ row :: after ∧ (∀ row ∈ before, row.length = columns) ∧
      row.length ≠ columns ∧ ragged = ⟨index + before.length, columns, row.length⟩ := by
  induction rows generalizing index with
  | nil => contradiction
  | cons first others ih =>
    rw [raggedRow?] at found
    split at found
    · rename_i head
      obtain ⟨before, row, after, rfl, regular, differs, same⟩ := ih found
      refine ⟨first :: before, row, after, rfl, List.forall_mem_cons.2 ⟨head, regular⟩, differs, ?_⟩
      rw [same, List.length_cons, Nat.add_assoc, Nat.add_comm 1]
    · rename_i differs
      exact ⟨[], first, others, rfl, List.forall_mem_nil _, differs, (Option.some.inj found).symm⟩

/-- Only the lengths of rows decide which of them is ragged. -/
theorem raggedRow?_congr {rows' : List (List β)} {columns index : Nat}
    (lengths : rows.map List.length = rows'.map List.length) :
    raggedRow? columns index rows = raggedRow? columns index rows' := by
  induction rows generalizing rows' index with
  | nil =>
    cases rows' with
    | nil => rfl
    | cons first' others' => contradiction
  | cons first others ih =>
    cases rows' with
    | nil => contradiction
    | cons first' others' =>
      obtain ⟨head, tail⟩ := List.cons.inj lengths
      rw [raggedRow?, raggedRow?, head, ih tail]

/-- Rows with the same lengths have first ones of the same length. -/
theorem firstLength_congr {rows' : List (List β)}
    (lengths : rows.map List.length = rows'.map List.length) :
    firstLength rows = firstLength rows' := by
  rw [firstLength, firstLength, ← List.head?_map, lengths, List.head?_map]

/-- The first of some rows of one length has that length. -/
theorem firstLength_of_regular {columns : Nat} (regular : ∀ row ∈ rows, row.length = columns)
    (present : rows ≠ []) : firstLength rows = columns := by
  obtain ⟨first, others, rfl⟩ := List.exists_cons_of_ne_nil present
  exact regular first List.mem_cons_self

/-- Rows of one length make a grid. -/
theorem exists_ofRows {columns : Nat} (regular : ∀ row ∈ rows, row.length = columns) :
    ∃ grid, ofRows rows = .ok grid ∧ grid.rows = rows := by
  have uniform : ∀ row ∈ rows, row.length = firstLength rows := by
    intro row member
    rw [regular row member, firstLength_of_regular regular (List.ne_nil_of_mem member)]
  exact ⟨⟨firstLength rows, rows, uniform⟩, ofRows_eq_ok.2 ⟨rfl, rfl⟩, rfl⟩

end Rows

/-- The entry in a row and a column. -/
def cell? (grid : Grid α) (row column : Nat) : Option α :=
  (grid.rows[row]?).bind fun entries => entries[column]?

/-- Rows of one length, one after another. -/
theorem getElem?_flatten {columns : Nat} {rows : List (List α)}
    (regular : ∀ row ∈ rows, row.length = columns) (place : Nat) :
    rows.flatten[place]? =
      (rows[place / columns]?).bind fun entries => entries[place % columns]? := by
  induction rows generalizing place with
  | nil => rfl
  | cons first others ih =>
    obtain ⟨head, tail⟩ := List.forall_mem_cons.1 regular
    rw [List.flatten_cons]
    by_cases within : place < columns
    · rw [List.getElem?_append_left (head ▸ within), Nat.div_eq_of_lt within,
        Nat.mod_eq_of_lt within]
      rfl
    · have reach : columns ≤ place := Nat.le_of_not_lt within
      rw [List.getElem?_append_right (head ▸ reach), head, ih tail]
      cases columns with
      | zero =>
        -- Rows without entries: whatever row is looked at, nothing is found.
        have empty : ∀ rows : List (List α), (∀ row ∈ rows, row.length = 0) → ∀ row column : Nat,
            ((rows[row]?).bind fun entries => entries[column]?) = none := by
          intro rows blank row column
          cases found : rows[row]? with
          | none => rfl
          | some entries =>
            have length := blank entries (List.mem_of_getElem? found)
            exact List.getElem?_eq_none (by omega)
        rw [empty others tail, empty (first :: others) regular]
      | succ width =>
        have next : place / (width + 1) = (place - (width + 1)) / (width + 1) + 1 := by
          rw [Nat.div_eq_sub_div (Nat.succ_pos _) reach]
        rw [next, List.getElem?_cons_succ, ← Nat.mod_eq_sub_mod reach]

/-- The number of entries of rows of one length. -/
theorem length_flatten {columns : Nat} {rows : List (List α)}
    (regular : ∀ row ∈ rows, row.length = columns) :
    rows.flatten.length = rows.length * columns := by
  rw [List.length_flatten, List.map_congr_left regular, List.map_const', List.sum_replicate_nat]

/-- The entries row by row. -/
theorem getElem?_rowMajor (grid : Grid α) (place : Nat) :
    grid.rowMajor[place]? = grid.cell? (place / grid.columns) (place % grid.columns) :=
  getElem?_flatten grid.regular place

/-- The number of entries. -/
theorem length_rowMajor (grid : Grid α) :
    grid.rowMajor.length = grid.shape.1 * grid.shape.2 :=
  length_flatten grid.regular

/-- A grid that is given by labels has a row and a column for each. -/
theorem shape_tabulate {ρ γ : Type} (rows : List ρ) (columns : List γ) (entry : ρ → γ → α) :
    (tabulate rows columns entry).shape = (rows.length, columns.length) := by
  rw [shape, tabulate, List.length_map]

/-- An entry of a grid that is given by labels. -/
theorem cell?_tabulate {ρ γ : Type} (rows : List ρ) (columns : List γ) (entry : ρ → γ → α)
    (row column : Nat) :
    (tabulate rows columns entry).cell? row column =
      (rows[row]?).bind fun label => (columns[column]?).map (entry label) := by
  rw [cell?, tabulate, List.getElem?_map]
  cases rows[row]? with
  | none => rfl
  | some label => exact List.getElem?_map

/-- The entries of a grid that is given by labels. -/
theorem mem_rowMajor_tabulate {ρ γ : Type} {rows : List ρ} {columns : List γ} {entry : ρ → γ → α}
    {value : α} :
    value ∈ (tabulate rows columns entry).rowMajor ↔
      ∃ row ∈ rows, ∃ column ∈ columns, entry row column = value := by
  rw [rowMajor, tabulate, List.mem_flatten]
  constructor
  · rintro ⟨entries, member, found⟩
    obtain ⟨row, rowMember, rfl⟩ := List.mem_map.1 member
    obtain ⟨column, columnMember, same⟩ := List.mem_map.1 found
    exact ⟨row, rowMember, column, columnMember, same⟩
  · rintro ⟨row, rowMember, column, columnMember, same⟩
    exact ⟨_, List.mem_map_of_mem rowMember, List.mem_map.2 ⟨column, columnMember, same⟩⟩

/-- An entry of a changed grid. -/
theorem cell?_map (f : α → β) (grid : Grid α) (row column : Nat) :
    (grid.map f).cell? row column = (grid.cell? row column).map f := by
  rw [cell?, cell?, map, List.getElem?_map]
  cases grid.rows[row]? with
  | none => rfl
  | some entries => exact List.getElem?_map

/-- The entries of a changed grid row by row. -/
theorem rowMajor_map (f : α → β) (grid : Grid α) : (grid.map f).rowMajor = grid.rowMajor.map f := by
  rw [rowMajor, rowMajor, map, List.map_flatten]

/-- Changing the entries of a changed grid. -/
theorem map_map {γ : Type} (f : α → β) (g : β → γ) (grid : Grid α) :
    (grid.map f).map g = grid.map (g ∘ f) := by
  refine Grid.ext rfl ?_
  change (grid.rows.map (List.map f)).map (List.map g) = grid.rows.map (List.map (g ∘ f))
  rw [List.map_map]
  exact List.map_congr_left fun row _ => List.map_map

/-- Changes that agree on the entries of a grid make the same grid of it. -/
theorem map_congr {f g : α → β} {grid : Grid α} (same : ∀ entry ∈ grid.rowMajor, f entry = g entry) :
    grid.map f = grid.map g := by
  refine Grid.ext rfl (List.map_congr_left fun row member => List.map_congr_left fun entry found => ?_)
  exact same entry (List.mem_flatten.2 ⟨row, member, found⟩)

/-- A grid does not change when each entry is left as it is. -/
theorem map_id (grid : Grid α) : grid.map id = grid := by
  refine Grid.ext rfl ?_
  change grid.rows.map (List.map id) = grid.rows
  rw [List.map_id_fun, List.map_id]

/-- A grid that is given by labels, where labels and entries are changed together. -/
theorem map_tabulate {ρ γ ρ' γ' : Type} {f : α → β} {change : ρ → ρ'} {change' : γ → γ'}
    {entry : ρ → γ → α} {entry' : ρ' → γ' → β}
    (same : ∀ row column, f (entry row column) = entry' (change row) (change' column))
    (rows : List ρ) (columns : List γ) :
    (tabulate rows columns entry).map f =
      tabulate (rows.map change) (columns.map change') entry' := by
  refine Grid.ext (List.length_map _).symm ?_
  simp only [map, tabulate, List.map_map, Function.comp_def, same]

/-- A changed grid has the same shape. -/
theorem shape_map (f : α → β) (grid : Grid α) : (grid.map f).shape = grid.shape := by
  rw [shape, map, List.length_map]
  rfl

end Grid

namespace ExprArray

variable {ν : Type}

/-- The element in a row and a column. A vector is a column. -/
def cell? : ExprArray ν → Nat → Nat → Option (Expr ν)
  | .vector elements, row, column => if column = 0 then elements[row]? else none
  | .matrix grid, row, column => grid.cell? row column

/-- The elements row by row. -/
theorem getElem?_rowMajor (array : ExprArray ν) (place : Nat) :
    array.rowMajor[place]? = array.cell? (place / array.shape.2) (place % array.shape.2) := by
  cases array with
  | vector elements => rw [shape, Nat.div_one, Nat.mod_one, cell?, if_pos rfl, rowMajor]
  | matrix grid => exact grid.getElem?_rowMajor place

/-- The number of elements. -/
theorem size_eq (array : ExprArray ν) : array.size = array.shape.1 * array.shape.2 := by
  cases array with
  | vector elements => exact (Nat.mul_one _).symm
  | matrix grid => exact grid.length_rowMajor

/-- An element of a changed array. -/
theorem cell?_map (f : Expr ν → Expr ν) (array : ExprArray ν) (row column : Nat) :
    (array.map f).cell? row column = (array.cell? row column).map f := by
  cases array with
  | vector elements =>
    rw [map, cell?, cell?]
    split
    · exact List.getElem?_map
    · rfl
  | matrix grid => exact grid.cell?_map f row column

/-- The elements of a changed array row by row. -/
theorem rowMajor_map (f : Expr ν → Expr ν) (array : ExprArray ν) :
    (array.map f).rowMajor = array.rowMajor.map f := by
  cases array with
  | vector elements => rfl
  | matrix grid => exact grid.rowMajor_map f

/-- Changing the elements of a changed array. -/
theorem map_map (f g : Expr ν → Expr ν) (array : ExprArray ν) :
    (array.map f).map g = array.map (g ∘ f) := by
  cases array with
  | vector elements => exact congrArg vector List.map_map
  | matrix grid => exact congrArg matrix (grid.map_map f g)

/-- Changes that agree on the elements of an array make the same array of it. -/
theorem map_congr {f g : Expr ν → Expr ν} {array : ExprArray ν}
    (same : ∀ expr ∈ array.rowMajor, f expr = g expr) : array.map f = array.map g := by
  cases array with
  | vector elements => exact congrArg vector (List.map_congr_left same)
  | matrix grid => exact congrArg matrix (Grid.map_congr same)

/-- A changed array has as many elements. -/
theorem size_map (f : Expr ν → Expr ν) (array : ExprArray ν) : (array.map f).size = array.size := by
  rw [size, rowMajor_map, List.length_map, size]

/-- A changed array has the same shape. -/
theorem shape_map (f : Expr ν → Expr ν) (array : ExprArray ν) : (array.map f).shape = array.shape := by
  cases array with
  | vector elements => rw [map, shape, shape, List.length_map]
  | matrix grid => exact grid.shape_map f

end ExprArray

end KalmanHeader
