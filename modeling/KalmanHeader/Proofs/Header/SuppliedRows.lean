import KalmanHeader.Model.Header
import KalmanHeader.Proofs.Expr.Grid
import KalmanHeader.Proofs.Header.Success

/-!
# Jacobians supplied as rows

A Jacobian that comes as rows is a grid before its shape is compared with the rest of the
description. The grid has as many columns as its first row has entries, and none without
rows. So rows have the right shape exactly when there are as many of them as they should
be, each of the right length, save that a filter with a state but without observations
takes no rows at all for the Jacobian of its observation.
-/

namespace KalmanHeader

/-- Rows make a grid of a shape when they are as many and as long as it says. A grid without
rows has no columns. -/
theorem Grid.exists_ofRows_shape {α : Type} {rows : List (List α)} {height width : Nat} :
    (∃ grid, ofRows rows = .ok grid ∧ grid.shape = (height, width)) ↔
      rows.length = height ∧ (∀ row ∈ rows, row.length = width) ∧ (rows = [] → width = 0) := by
  constructor
  · rintro ⟨grid, made, shape⟩
    obtain ⟨rfl, columns⟩ := ofRows_eq_ok.1 made
    obtain ⟨rfl, rfl⟩ := Prod.mk.inj shape
    refine ⟨rfl, grid.regular, fun empty => ?_⟩
    rw [columns, empty]
    rfl
  · rintro ⟨rfl, regular, empty⟩
    obtain ⟨grid, made, same⟩ := exists_ofRows regular
    have columns : firstLength rows = width := by
      by_cases absent : rows = []
      · rw [absent, empty absent]
        rfl
      · exact firstLength_of_regular regular absent
    exact ⟨grid, made, Prod.ext (congrArg List.length same) ((ofRows_eq_ok.1 made).2.trans columns)⟩

section Failures

variable {α β ε ε' : Type} {allowed : ε → Prop}

/-- Whether a step can only fail with an allowed error. -/
def FailsWith (allowed : ε → Prop) (first : Except ε α) : Prop :=
  ∀ error, first = .error error → allowed error

/-- A result is no failure. -/
theorem failsWith_ok (value : α) : FailsWith allowed (.ok value : Except ε α) :=
  nofun

/-- An allowed error is an allowed failure. -/
theorem failsWith_error {error : ε} (known : allowed error) :
    FailsWith allowed (.error error : Except ε α) := by
  rintro found ⟨⟩
  exact known

/-- One step after another fails as either of them does. -/
theorem FailsWith.bind {first : Except ε α} {next : α → Except ε β}
    (head : FailsWith allowed first) (tail : ∀ value, FailsWith allowed (next value)) :
    FailsWith allowed (first >>= next) := by
  cases first with
  | error error => exact failsWith_error (head error rfl)
  | ok value => exact tail value

/-- A step whose result is changed fails as before. -/
theorem FailsWith.map {first : Except ε α} (head : FailsWith allowed first) (change : α → β) :
    FailsWith allowed (first.map change) := by
  cases first with
  | error error => exact failsWith_error (head error rfl)
  | ok value => exact failsWith_ok _

/-- An error in other words is allowed when all of these are. -/
theorem failsWith_mapError {reword : ε' → ε} (known : ∀ error, allowed (reword error))
    (first : Except ε' α) : FailsWith allowed (first.mapError reword) := by
  cases first with
  | error error => exact failsWith_error (known error)
  | ok value => exact failsWith_ok value

end Failures

/-- Whether an error says that dimensions do not match. -/
def HeaderError.IsMismatch : HeaderError → Prop
  | .wrongLength _ _ | .wrongShape _ _ _ => True
  | _ => False

/-- Whether an error says that dimensions do not match, those of rows among themselves or
those of a header. -/
def GenerationError.IsMismatch : GenerationError → Prop
  | .spec (.raggedRow _) => True
  | .header error => error.IsMismatch
  | _ => False

/-- Whether what was tried ended because dimensions do not match. -/
def ReportsMismatch {α : Type} (result : Except GenerationError α) : Prop :=
  ∃ error, result = .error error ∧ error.IsMismatch

namespace HeaderSpec

variable {spec : HeaderSpec} {options : HeaderOptions} {fileName : String}

section Errors

/-- Checking the dimensions only finds mismatches. -/
theorem failsWith_checkDimensions : FailsWith HeaderError.IsMismatch spec.checkDimensions := by
  have shape : ∀ name expected supplied,
      FailsWith HeaderError.IsMismatch (checkShape name expected supplied) := by
    intro name expected supplied
    unfold checkShape
    split
    · exact failsWith_ok ()
    · split
      · exact failsWith_ok ()
      · exact failsWith_error trivial
  unfold checkDimensions
  dsimp only
  split
  · exact failsWith_error trivial
  · exact (shape _ _ _).bind fun _ => shape _ _ _

/-- Finding the names of the state finds no mismatch. -/
theorem failsWith_stateNamesFrom {index : Nat} {seen : List String} {exprs : List (Expr Float)} :
    FailsWith (¬·.IsMismatch) (stateNamesFrom index seen exprs) := by
  induction exprs generalizing index seen with
  | nil => exact failsWith_ok []
  | cons first others ih =>
    rw [stateNamesFrom]
    split
    · exact failsWith_error id
    · split
      · exact failsWith_error id
      · exact ih.map _

/-- Claiming names finds no mismatch. -/
theorem failsWith_claim {taken : List String} {declared : List DeclaredName} :
    FailsWith (¬·.IsMismatch) (DeclaredName.claim taken declared) := by
  induction declared generalizing taken with
  | nil => exact failsWith_ok ()
  | cons first others ih =>
    rw [DeclaredName.claim]
    split
    · exact failsWith_error id
    · split
      · exact failsWith_error id
      · exact ih

/-- Laying a header out finds no mismatch. -/
theorem failsWith_layout : FailsWith (¬·.IsMismatch) (spec.layout options fileName) := by
  have jacobian : ∀ supplied outputs,
      FailsWith (¬·.IsMismatch) (spec.jacobianOr supplied outputs) := by
    intro supplied outputs
    cases supplied with
    | some grid => exact failsWith_ok grid
    | none => exact failsWith_mapError (fun _ => id) _
  unfold layout
  exact failsWith_stateNamesFrom.bind fun _ => failsWith_claim.bind fun _ =>
    (jacobian _ _).bind fun _ => (jacobian _ _).bind fun _ => failsWith_ok _

/-- With options that pass their check, composing finds a mismatch when and only when
checking the dimensions does. -/
theorem compose_mismatch_iff (checked : options.check = .ok ()) :
    (∃ error, spec.compose options fileName = .error error ∧ error.IsMismatch) ↔
      spec.checkDimensions ≠ .ok () := by
  unfold compose
  rw [checked]
  cases fitting : spec.checkDimensions with
  | error error =>
    exact ⟨fun _ => nofun, fun _ => ⟨error, rfl, failsWith_checkDimensions error fitting⟩⟩
  | ok =>
    have others : FailsWith (¬·.IsMismatch) (do
        let substitution ← (Substitution.ofConstants spec.constants).mapError .cyclicConstant
        let layout ← (spec.substituted substitution).layout options fileName
        return layout.generate) :=
      (failsWith_mapError (fun _ => id) _).bind fun _ =>
        failsWith_layout.bind fun _ => failsWith_ok _
    exact ⟨fun ⟨error, found, mismatch⟩ => absurd mismatch (others error found),
      fun different => absurd rfl different⟩

end Errors

/-- The description with the Jacobian of its transition supplied. -/
def supplyTransitionJacobian (spec : HeaderSpec) (grid : Grid (Expr Float)) : HeaderSpec :=
  { spec with transitionJacobian := some grid }

/-- The description with the Jacobian of its observation supplied. -/
def supplyObservationJacobian (spec : HeaderSpec) (grid : Grid (Expr Float)) : HeaderSpec :=
  { spec with observationJacobian := some grid }

/-- The header of a description to which a Jacobian is supplied as rows. -/
def composeWithRows (supply : Grid (Expr Float) → HeaderSpec) (rows : List (List (Expr Float)))
    (options : HeaderOptions) (fileName : String) : Except GenerationError GeneratedHeader := do
  let grid ← (Grid.ofRows rows).mapError fun row => .spec (.raggedRow row)
  ((supply grid).compose options fileName).mapError .header

section Models

variable {array : ModelArray} {formulas : List (List Formula)} {rows : List (List (Expr Float))}

/-- A Jacobian of a model file is the grid of the rows of its formulas. -/
theorem toJacobian_of_parsed (parsed : Formula.toRowsFrom array 0 formulas = .ok rows) :
    Formula.toJacobian array (some formulas) =
      ((Grid.ofRows rows).mapError .raggedRow).map some := by
  rw [Formula.toJacobian, Formula.toGrid, parsed]

/-- The Jacobians of a model file are supplied as the rows of their formulas. -/
theorem compose_formulas {model : FilterModel} (described : model.toSpec = .ok spec) :
    (Formula.toRowsFrom .observationJacobian 0 formulas = .ok rows →
      { model with observationJacobian := some formulas }.compose =
        composeWithRows spec.supplyObservationJacobian rows model.headerOptions model.fileName) ∧
    (Formula.toRowsFrom .transitionJacobian 0 formulas = .ok rows →
      { model with transitionJacobian := some formulas }.compose =
        composeWithRows spec.supplyTransitionJacobian rows model.headerOptions model.fileName) := by
  unfold FilterModel.toSpec FilterModel.toSpecInOrder at described
  simp only [bind_eq_ok] at described
  obtain ⟨state, state', transition, transition', observation, observation', F, F', H, H',
    constants, constants', post, post', made⟩ := described
  obtain rfl := Except.ok.inj made
  unfold FilterModel.compose FilterModel.toSpec FilterModel.toSpecInOrder composeWithRows
  constructor
  · intro parsed
    simp only [state', transition', observation', F', toJacobian_of_parsed parsed, constants',
      post']
    cases Grid.ofRows rows <;> rfl
  · intro parsed
    simp only [state', transition', observation', H', toJacobian_of_parsed parsed, constants',
      post']
    cases Grid.ofRows rows <;> rfl

end Models

section Rows

variable {supply : Grid (Expr Float) → HeaderSpec}

/-- With options that pass their check, no mismatch is reported for rows that make a grid with
which the dimensions are right, and only for these. -/
theorem noMismatch_composeWithRows (checked : options.check = .ok ())
    (rows : List (List (Expr Float))) :
    ¬ReportsMismatch (composeWithRows supply rows options fileName) ↔
      ∃ grid, Grid.ofRows rows = .ok grid ∧ (supply grid).checkDimensions = .ok () := by
  unfold composeWithRows
  cases made : Grid.ofRows rows with
  | error row =>
    exact ⟨fun noMismatch => absurd ⟨.spec (.raggedRow row), rfl, trivial⟩ noMismatch, nofun⟩
  | ok grid =>
    have reported : ReportsMismatch (((supply grid).compose options fileName).mapError .header) ↔
        ∃ error, (supply grid).compose options fileName = .error error ∧ error.IsMismatch := by
      unfold ReportsMismatch
      cases (supply grid).compose options fileName with
      | error error =>
        constructor
        · rintro ⟨_, ⟨⟩, mismatch⟩
          exact ⟨error, rfl, mismatch⟩
        · rintro ⟨_, ⟨⟩, mismatch⟩
          exact ⟨.header error, rfl, mismatch⟩
      | ok header => exact ⟨nofun, nofun⟩
    constructor
    · intro noMismatch
      exact ⟨grid, rfl, not_not.1 fun different =>
        noMismatch (reported.2 ((compose_mismatch_iff checked).2 different))⟩
    · rintro ⟨_, ⟨⟩, fitting⟩ mismatch
      exact (compose_mismatch_iff checked).1 (reported.1 mismatch) fitting

/-- For a description that is right so far no mismatch is reported exactly when the rows of a
supplied Jacobian are of the right shape: for the transition one row for each entry of the
state, for the observation one for each observation, and in each row one entry for each entry
of the state. A filter with a state but without observations is the exception: its Jacobian
has no rows, but no rows are taken for it. -/
theorem noMismatch_rows_iff (checked : options.check = .ok ())
    (length : spec.transition.length = spec.state.length) (rows : List (List (Expr Float))) :
    ((∀ grid ∈ spec.transitionJacobian, grid.shape = (spec.state.length, spec.state.length)) →
      (¬ReportsMismatch (composeWithRows spec.supplyObservationJacobian rows options fileName) ↔
        rows.length = spec.observation.length ∧ (∀ row ∈ rows, row.length = spec.state.length) ∧
          (rows = [] → spec.state.length = 0))) ∧
    ((∀ grid ∈ spec.observationJacobian,
        grid.shape = (spec.observation.length, spec.state.length)) →
      (¬ReportsMismatch (composeWithRows spec.supplyTransitionJacobian rows options fileName) ↔
        rows.length = spec.state.length ∧ ∀ row ∈ rows, row.length = spec.state.length)) := by
  simp only [noMismatch_composeWithRows checked, checkDimensions_eq_ok]
  constructor
  · intro transition
    refine Iff.trans ?_ Grid.exists_ofRows_shape
    refine exists_congr fun grid => and_congr_right fun _ => ?_
    simp only [supplyObservationJacobian, length, Option.mem_some_iff, forall_eq', true_and]
    exact ⟨And.right, fun shape => ⟨transition, shape⟩⟩
  · intro observation
    have square : (rows.length = spec.state.length ∧ ∀ row ∈ rows, row.length = spec.state.length) ↔
        ∃ grid, Grid.ofRows rows = .ok grid ∧
          grid.shape = (spec.state.length, spec.state.length) := by
      refine Iff.trans ?_ Grid.exists_ofRows_shape.symm
      refine and_congr_right fun height => ⟨fun width => ⟨width, ?_⟩, And.left⟩
      -- Without rows there are no entries in the state either.
      rintro rfl
      exact height.symm
    rw [square]
    refine exists_congr fun grid => and_congr_right fun _ => ?_
    simp only [supplyTransitionJacobian, length, Option.mem_some_iff, forall_eq', true_and]
    exact ⟨And.left, fun shape => ⟨shape, observation⟩⟩

/-- Two states of which the first is observed. -/
def drifting : HeaderSpec :=
  .ofFilter [.symbol "p", .symbol "v"] [.add (.symbol "p") (.symbol "v"), .symbol "v"] [.symbol "p"]

/-- One row of two entries is a Jacobian of the observation, a column of two entries is none,
and one row is no Jacobian of the transition. -/
theorem noMismatch_rows_iff_of_drifting :
    ¬ReportsMismatch (composeWithRows drifting.supplyObservationJacobian
        [[.literal 1.0, .literal 0.0]] .standard "m.h") ∧
      ReportsMismatch (composeWithRows drifting.supplyObservationJacobian
        [[.literal 1.0], [.literal 0.0]] .standard "m.h") ∧
      ReportsMismatch (composeWithRows drifting.supplyTransitionJacobian
        [[.literal 1.0, .literal 0.0]] .standard "m.h") := by
  have checked : HeaderOptions.standard.check = .ok () := by decide
  have rows (rows : List (List (Expr Float))) :=
    @noMismatch_rows_iff drifting .standard "m.h" checked rfl rows
  refine ⟨((rows _).1 nofun).2 ⟨rfl, by decide, nofun⟩, ?_, ?_⟩
  · exact not_not.1 fun accepted => absurd (((rows _).1 nofun).1 accepted).1 (by decide)
  · exact not_not.1 fun accepted => absurd (((rows _).2 nofun).1 accepted).1 (by decide)

/-- A state that is not observed. -/
def unobserved : HeaderSpec :=
  .ofFilter [.symbol "a"] [.symbol "a"] []

/-- There is a header for a filter without observations, and no rows are as many and as long as
its Jacobian asks for, and yet supplying them is reported as a mismatch. -/
theorem unobserved_refuses_no_rows :
    (∃ header, unobserved.compose .standard "m.h" = .ok header) ∧
      ¬(¬ReportsMismatch (composeWithRows unobserved.supplyObservationJacobian [] .standard "m.h") ↔
        ([] : List (List (Expr Float))).length = unobserved.observation.length ∧
          ∀ row ∈ ([] : List (List (Expr Float))), row.length = unobserved.state.length) := by
  have resolved : Substitution.ofConstants unobserved.constants = .ok ⟨[]⟩ := rfl
  have named : (unobserved.substituted ⟨[]⟩).stateNames = .ok ["a"] := rfl
  obtain ⟨header, composed, _⟩ := @exists_compose_of_claim unobserved .standard "m.h" _ _
    (by decide) (by decide) resolved named (by decide)
  have mismatch : ReportsMismatch
      (composeWithRows unobserved.supplyObservationJacobian [] .standard "m.h") :=
    ⟨.header (.wrongShape "H" (0, 1) (0, 0)), rfl, trivial⟩
  exact ⟨⟨header, composed⟩, fun same => same.2 ⟨rfl, List.forall_mem_nil _⟩ mismatch⟩

end Rows

end HeaderSpec

end KalmanHeader
