import KalmanHeader.Model.Spec
import KalmanHeader.Proofs.Expr.Grid
import KalmanHeader.Proofs.Results

/-!
# The first fault of a model

A model describes a filter when each formula in it parses and the rows of each matrix have
one length. These are its checks, in the order in which they are made: those of the state,
the transition and the observation, of the supplied Jacobians row by row, of the constants,
and of the further arrays. A matrix is compared row by row once all of its formulas have
been read. The error of a model is that of the first check that fails.

What settles checks is a step that has a result when all of them pass, and otherwise the error
of the first that fails. One step after another settles the checks of both.
-/

namespace KalmanHeader

/-- Whether a formula is a number or the text of an expression. -/
def Formula.Parses : Formula → Prop
  | .number _ => True
  | .text source => ∃ expr, Expr.parse source = .ok expr

/-- Whether a formula parses is found by parsing it. -/
instance : DecidablePred Formula.Parses
  | .number _ => .isTrue trivial
  | .text source =>
    match parsed : Expr.parse source with
    | .ok expr => .isTrue ⟨expr, parsed⟩
    | .error _ => .isFalse fun ⟨_, found⟩ => nomatch parsed.symm.trans found

/-- What is checked of a model: the formula at a place that messages name, or the lengths of
the rows of a matrix. -/
inductive Check where
  | parses (context : String) (formula : Formula)
  | lengths (rows : List (List Formula))
  deriving DecidableEq, Repr

namespace Check

/-- Whether nothing is wrong with what is checked. -/
def Passes : Check → Prop
  | .parses _ formula => formula.Parses
  | .lengths rows => ∀ first ∈ rows.head?, ∀ row ∈ rows, row.length = first.length

instance : DecidablePred Passes
  | .parses _ formula => inferInstanceAs (Decidable formula.Parses)
  | .lengths rows =>
    inferInstanceAs (Decidable (∀ first ∈ rows.head?, ∀ row ∈ rows, row.length = first.length))

/-- What is wrong with what is checked. A formula fails with the error of its text, and a
matrix with the first row that is not as long as the row with index 0. -/
inductive FailsWith : Check → SpecError → Prop
  | unparsed {context source : String} {place : Place} {error : ExprError Float}
    (named : place.text = context) (failed : Expr.parse source = .error error) :
    FailsWith (.parses context (.text source)) (.invalidExpression place error)
  | ragged {rows before after : List (List Formula)} {first row : List Formula}
    (start : rows.head? = some first) (order : rows = before ++ row :: after)
    (regular : ∀ row ∈ before, row.length = first.length) (differs : row.length ≠ first.length) :
    FailsWith (.lengths rows) (.raggedRow ⟨before.length, first.length, row.length⟩)

/-- A check that fails does not pass. -/
theorem FailsWith.not_passes {check : Check} {error : SpecError} (fails : check.FailsWith error) :
    ¬check.Passes := by
  cases fails with
  | unparsed named failed =>
    rintro ⟨expr, parsed⟩
    exact nomatch failed.symm.trans parsed
  | ragged start order regular differs =>
    exact fun passes => differs (passes _ start _ (order ▸ List.mem_append_cons_self))

/-- An element of an array, as messages name it. -/
def indexed (context : String) (index : Nat) : String :=
  context ++ "[" ++ toString index ++ "]"

/-- What is checked of formulas in a row, the first of which has the given index. -/
def ofRowFrom (context : String) (index : Nat) (formulas : List Formula) : List Check :=
  (formulas.zipIdx index).map fun (formula, index) => .parses (indexed context index) formula

/-- What is checked of the rows of a matrix, the first of which has the given index. -/
def ofRowsFrom (context : String) (index : Nat) (rows : List (List Formula)) : List Check :=
  (rows.zipIdx index).flatMap fun (row, index) => ofRowFrom (indexed context index) 0 row

/-- What is checked of a vector. -/
def ofVector (context : String) (formulas : List Formula) : List Check :=
  ofRowFrom context 0 formulas

/-- What is checked of a matrix: its formulas row by row, and then the lengths of its rows. -/
def ofMatrix (context : String) (rows : List (List Formula)) : List Check :=
  ofRowsFrom context 0 rows ++ [.lengths rows]

/-- Each formula of a matrix is named by its row and its column. -/
example : ofMatrix "F" [[.text "1", .text "x +"]] =
    [.parses "F[0][0]" (.text "1"), .parses "F[0][1]" (.text "x +"),
      .lengths [[.text "1", .text "x +"]]] := by
  rfl

/-- What is checked of a Jacobian, if it is supplied. -/
def ofJacobian (context : String) (rows : Option (List (List Formula))) : List Check :=
  (rows.map (ofMatrix context)).getD []

/-- What is checked of constants. -/
def ofConstants (entries : List (String × Formula)) : List Check :=
  entries.map fun (name, formula) => .parses ("constants." ++ name) formula

/-- What is checked of an array. -/
def ofArray (context : String) : FormulaArray → List Check
  | .vector elements => ofVector context elements
  | .matrix rows => ofMatrix context rows

/-- What is checked of further arrays. -/
def ofPost (post : List PostEntry) : List Check :=
  post.flatMap fun entry => ofArray ("post." ++ entry.name) entry.data

end Check

namespace FilterModel

/-- What is checked of the arrays of the filter itself. -/
def filterChecks (model : FilterModel) : List Check :=
  Check.ofVector "state" (model.state.map .text) ++ Check.ofVector "px" model.transition ++
    Check.ofVector "hx" model.observation ++ Check.ofJacobian "F" model.transitionJacobian ++
    Check.ofJacobian "H" model.observationJacobian

/-- What is checked of a model whose constants come in the order of `entries`, from first to
last. -/
def checks (model : FilterModel) (entries : List (String × Formula)) : List Check :=
  model.filterChecks ++ Check.ofConstants entries ++ Check.ofPost model.post

end FilterModel

section Settling

variable {α β : Type} {checks checks' : List Check} {outcome : Except SpecError α}

/-- Whether an outcome is a result and all checks pass, or the error of the first that
fails. -/
inductive Settles (checks : List Check) : Except SpecError α → Prop
  | passed {value : α} (passed : ∀ check ∈ checks, check.Passes) : Settles checks (.ok value)
  | failed {before after : List Check} {check : Check} {error : SpecError}
    (order : checks = before ++ check :: after) (passed : ∀ earlier ∈ before, earlier.Passes)
    (fails : check.FailsWith error) : Settles checks (.error error)

/-- What is not checked needs no settling. -/
theorem settles_ok (value : α) : Settles [] (.ok value) :=
  .passed (List.forall_mem_nil _)

/-- A check that fails is settled by its error. -/
theorem settles_error {check : Check} {error : SpecError} (fails : check.FailsWith error) :
    Settles [check] (.error error : Except SpecError α) :=
  .failed (List.nil_append _).symm (List.forall_mem_nil _) fails

/-- One step after another settles the checks of the one and then those of the other. -/
theorem Settles.bind {next : α → Except SpecError β} (head : Settles checks outcome)
    (tail : ∀ value, outcome = .ok value → Settles checks' (next value)) :
    Settles (checks ++ checks') (outcome >>= next) := by
  cases head with
  | failed order passed fails =>
    exact .failed (by rw [order, List.append_assoc, List.cons_append]) passed fails
  | @passed value passed =>
    change Settles _ (next value)
    have settled := tail value rfl
    generalize next value = outcome at settled ⊢
    cases settled with
    | passed passed' => exact .passed (List.forall_mem_append.2 ⟨passed, passed'⟩)
    | failed order passed' fails =>
      exact .failed (by rw [order, List.append_assoc])
        (List.forall_mem_append.2 ⟨passed, passed'⟩) fails

/-- A step whose result is changed settles the same checks. -/
theorem Settles.map (head : Settles checks outcome) (change : α → β) :
    Settles checks (outcome.map change) := by
  cases head with
  | passed passed => exact .passed passed
  | failed order passed fails => exact .failed order passed fails

/-- There is a result exactly when all checks pass. -/
theorem Settles.exists_ok_iff (settles : Settles checks outcome) :
    (∃ value, outcome = .ok value) ↔ ∀ check ∈ checks, check.Passes := by
  cases settles with
  | passed passed => exact ⟨fun _ => passed, fun _ => ⟨_, rfl⟩⟩
  | failed order passed fails =>
    refine ⟨nofun, fun passes => absurd (passes _ ?_) fails.not_passes⟩
    exact order ▸ List.mem_append_cons_self

/-- An error is that of the first check that fails. -/
theorem Settles.exists_of_error {error : SpecError} (settles : Settles checks outcome)
    (failed : outcome = .error error) : ∃ before check after,
      checks = before ++ check :: after ∧ (∀ earlier ∈ before, earlier.Passes) ∧
        check.FailsWith error := by
  cases settles with
  | passed passed => contradiction
  | failed order passed fails =>
    obtain rfl := Except.error.inj failed
    exact ⟨_, _, _, order, passed, fails⟩

end Settling

section Equations

variable {array : ModelArray} {index : Nat}

/-- Formulas in a row are read one after another. -/
theorem Formula.toExprsFrom_cons {place : Nat → Place} (formula : Formula)
    (formulas : List Formula) :
    toExprsFrom place index (formula :: formulas) =
      formula.toExpr (place index) >>= fun expr =>
        (toExprsFrom place (index + 1) formulas).map (expr :: ·) := by
  rw [toExprsFrom]
  cases formula.toExpr (place index) <;> rfl

/-- Rows of formulas are read one after another. -/
theorem Formula.toRowsFrom_cons (row : List Formula) (rows : List (List Formula)) :
    toRowsFrom array index (row :: rows) =
      toExprsFrom (.entry array index) 0 row >>= fun exprs =>
        (toRowsFrom array (index + 1) rows).map (exprs :: ·) := by
  rw [toRowsFrom]
  cases toExprsFrom (.entry array index) 0 row <;> rfl

/-- The rows of a matrix are compared once they are read. -/
theorem Formula.toGrid_eq (rows : List (List Formula)) :
    toGrid array rows =
      toRowsFrom array 0 rows >>= fun exprs =>
        (Grid.ofRows exprs).mapError .raggedRow := by
  rw [toGrid]
  cases toRowsFrom array 0 rows <;> rfl

/-- Constants are read one after another. -/
theorem Formula.toConstants_cons (constants : Constants Float) (entry : String × Formula)
    (entries : List (String × Formula)) :
    toConstants constants (entry :: entries) =
      entry.2.toExpr (.constant entry.1) >>= fun expr =>
        toConstants (constants.insert entry.1 expr) entries := by
  rw [toConstants]
  cases entry.2.toExpr (.constant entry.1) <;> rfl

/-- Further arrays are read one after another. -/
theorem PostEntry.toExprArrays_cons (entry : PostEntry) (entries : List PostEntry) :
    toExprArrays (entry :: entries) =
      entry.data.toExprArray (.post entry.name) >>= fun array =>
        (toExprArrays entries).map ((entry.name, array) :: ·) := by
  rw [toExprArrays]
  cases entry.data.toExprArray (.post entry.name) <;> rfl

/-- As many expressions are read as there are formulas in a row. -/
theorem Formula.length_of_toExprsFrom {place : Nat → Place} {formulas : List Formula}
    {exprs : List (Expr Float)} (read : toExprsFrom place index formulas = .ok exprs) :
    exprs.length = formulas.length := by
  induction formulas generalizing index exprs with
  | nil =>
    obtain rfl := Except.ok.inj read
    rfl
  | cons formula formulas ih =>
    rw [toExprsFrom_cons, bind_eq_ok] at read
    obtain ⟨expr, _, others⟩ := read
    obtain ⟨exprs, found, rfl⟩ := map_eq_ok.1 others
    exact congrArg (· + 1) (ih found)

/-- The rows that are read are as long as those of the formulas. -/
theorem Formula.lengths_of_toRowsFrom {rows : List (List Formula)}
    {exprs : List (List (Expr Float))} (read : toRowsFrom array index rows = .ok exprs) :
    exprs.map List.length = rows.map List.length := by
  induction rows generalizing index exprs with
  | nil =>
    obtain rfl := Except.ok.inj read
    rfl
  | cons row rows ih =>
    rw [toRowsFrom_cons, bind_eq_ok] at read
    obtain ⟨first, parsed, others⟩ := read
    obtain ⟨exprs, found, rfl⟩ := map_eq_ok.1 others
    rw [List.map_cons, List.map_cons, length_of_toExprsFrom parsed, ih found]

end Equations

section Steps

/-- Reading a formula checks whether it parses. -/
theorem settles_toExpr (place : Place) (formula : Formula) :
    Settles [.parses place.text formula] (formula.toExpr place) := by
  cases formula with
  | number value => exact .passed (List.forall_mem_singleton.2 trivial)
  | text source =>
    rw [Formula.toExpr]
    cases parsed : Expr.parse source with
    | ok expr => exact .passed (List.forall_mem_singleton.2 ⟨expr, parsed⟩)
    | error error => exact settles_error (.unparsed rfl parsed)

/-- Reading formulas in a row checks each of them. -/
theorem settles_toExprsFrom {place : Nat → Place} {context : String}
    (named : ∀ index, (place index).text = Check.indexed context index) (index : Nat)
    (formulas : List Formula) :
    Settles (Check.ofRowFrom context index formulas)
      (Formula.toExprsFrom place index formulas) := by
  induction formulas generalizing index with
  | nil => exact settles_ok []
  | cons formula formulas ih =>
    have head := settles_toExpr (place index) formula
    rw [named index] at head
    rw [Formula.toExprsFrom_cons]
    exact head.bind fun expr _ => (ih (index + 1)).map _

/-- Reading a vector checks its elements. -/
theorem settles_toExprs (array : ModelArray) (formulas : List Formula) :
    Settles (Check.ofVector array.text formulas) (Formula.toExprs array formulas) :=
  settles_toExprsFrom (fun _ => rfl) 0 formulas

/-- Reading rows checks their formulas. -/
theorem settles_toRowsFrom (array : ModelArray) (index : Nat) (rows : List (List Formula)) :
    Settles (Check.ofRowsFrom array.text index rows) (Formula.toRowsFrom array index rows) := by
  induction rows generalizing index with
  | nil => exact settles_ok []
  | cons row rows ih =>
    have named : ∀ column, (Place.entry array index column).text =
        Check.indexed (Check.indexed array.text index) column := by
      intro column
      have bracket : "][" = "]" ++ "[" := rfl
      rw [Place.text, Check.indexed, Check.indexed, bracket]
      simp only [String.append_assoc]
    rw [Formula.toRowsFrom_cons]
    exact (settles_toExprsFrom named 0 row).bind fun exprs _ => (ih (index + 1)).map _

/-- Making a grid of rows that were read compares the lengths of the rows. -/
theorem settles_ofRows {rows : List (List Formula)} {exprs : List (List (Expr Float))}
    (lengths : exprs.map List.length = rows.map List.length) :
    Settles [.lengths rows] ((Grid.ofRows exprs).mapError .raggedRow) := by
  have same : Grid.raggedRow? (Grid.firstLength rows) 0 exprs =
      Grid.raggedRow? (Grid.firstLength rows) 0 rows :=
    Grid.raggedRow?_congr lengths
  cases made : Grid.ofRows exprs with
  | ok grid =>
    obtain ⟨rfl, columns⟩ := Grid.ofRows_eq_ok.1 made
    rw [← Grid.firstLength_congr lengths, ← columns, Grid.raggedRow?_eq_none.2 grid.regular] at same
    have regular := Grid.raggedRow?_eq_none.1 same.symm
    refine .passed (List.forall_mem_singleton.2 fun first start row member => ?_)
    rw [regular row member, regular first (List.mem_of_mem_head? start)]
  | error ragged =>
    have found := Grid.ofRows_eq_error.1 made
    rw [Grid.firstLength_congr lengths, same] at found
    obtain ⟨before, row, after, order, regular, differs, rfl⟩ :=
      Grid.exists_of_raggedRow?_eq_some found
    obtain ⟨first, start⟩ : ∃ first, rows.head? = some first :=
      Option.isSome_iff_exists.1 (List.isSome_head?.2 (order ▸ by simp))
    have columns : Grid.firstLength rows = first.length := by
      rw [Grid.firstLength, start, Option.map_some, Option.getD_some]
    rw [columns] at regular differs ⊢
    rw [Nat.zero_add]
    exact settles_error (.ragged start order regular differs)

/-- Reading a matrix checks its formulas and then its rows. -/
theorem settles_toGrid (array : ModelArray) (rows : List (List Formula)) :
    Settles (Check.ofMatrix array.text rows) (Formula.toGrid array rows) := by
  rw [Formula.toGrid_eq]
  exact (settles_toRowsFrom array 0 rows).bind fun exprs read =>
    settles_ofRows (Formula.lengths_of_toRowsFrom read)

/-- Reading a Jacobian checks it as a matrix, if it is supplied. -/
theorem settles_toJacobian (array : ModelArray) (rows : Option (List (List Formula))) :
    Settles (Check.ofJacobian array.text rows) (Formula.toJacobian array rows) := by
  cases rows with
  | none => exact settles_ok none
  | some rows => exact (settles_toGrid array rows).map some

/-- Reading constants checks each of them. -/
theorem settles_toConstants (constants : Constants Float) (entries : List (String × Formula)) :
    Settles (Check.ofConstants entries) (Formula.toConstants constants entries) := by
  induction entries generalizing constants with
  | nil => exact settles_ok constants
  | cons entry entries ih =>
    have head := settles_toExpr (.constant entry.1) entry.2
    rw [Formula.toConstants_cons]
    exact head.bind fun expr _ => ih (constants.insert entry.1 expr)

/-- Reading an array checks it as a vector or as a matrix. -/
theorem settles_toExprArray (array : ModelArray) (data : FormulaArray) :
    Settles (Check.ofArray array.text data) (data.toExprArray array) := by
  cases data with
  | vector elements => exact (settles_toExprs array elements).map ExprArray.vector
  | matrix rows => exact (settles_toGrid array rows).map ExprArray.matrix

/-- Reading further arrays checks each of them. -/
theorem settles_toExprArrays (post : List PostEntry) :
    Settles (Check.ofPost post) (PostEntry.toExprArrays post) := by
  induction post with
  | nil => exact settles_ok []
  | cons entry entries ih =>
    have head := settles_toExprArray (.post entry.name) entry.data
    rw [PostEntry.toExprArrays_cons]
    exact head.bind fun array _ => ih.map _

end Steps

namespace FilterModel

/-- Describing the filter of a model settles its checks. -/
theorem settles_toSpecInOrder (model : FilterModel) (entries : List (String × Formula)) :
    Settles (model.checks entries) (model.toSpecInOrder entries) := by
  have state := settles_toExprs .state (model.state.map .text)
  have transition := settles_toExprs .transition model.transition
  have observation := settles_toExprs .observation model.observation
  have transitionJacobian := settles_toJacobian .transitionJacobian model.transitionJacobian
  have observationJacobian := settles_toJacobian .observationJacobian model.observationJacobian
  have constants := settles_toConstants .empty entries
  have post := settles_toExprArrays model.post
  unfold checks filterChecks toSpecInOrder
  simp only [List.append_assoc]
  exact state.bind fun _ _ => transition.bind fun _ _ => observation.bind fun _ _ =>
    transitionJacobian.bind fun _ _ => observationJacobian.bind fun _ _ =>
    constants.bind fun _ _ => post.map _

/-- A model whose constants are read in some order describes a filter exactly when every
formula in it parses and the rows of every matrix have one length. Otherwise its error is that
of the first place where this fails, and everything before that place is in order. -/
theorem toSpecInOrder_firstFault (model : FilterModel) (entries : List (String × Formula)) :
    ((∃ spec, model.toSpecInOrder entries = .ok spec) ↔
        ∀ check ∈ model.checks entries, check.Passes) ∧
      ∀ error, model.toSpecInOrder entries = .error error → ∃ before check after,
        model.checks entries = before ++ check :: after ∧
          (∀ earlier ∈ before, earlier.Passes) ∧ check.FailsWith error :=
  have settles := model.settles_toSpecInOrder entries
  ⟨settles.exists_ok_iff, fun _ => settles.exists_of_error⟩

end FilterModel

end KalmanHeader
