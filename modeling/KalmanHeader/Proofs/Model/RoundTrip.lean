import KalmanHeader.Proofs.Model.Formulas

/-!
# Model files survive a round trip

A model that is read from a text has finite numbers, and none of its further arrays is a
matrix without rows. So if its numbers are read back from the texts that they are written as,
the model is read back from the text that it is written as.
-/

namespace KalmanHeader

open Json (Codec Field RecordFormat Rereads)

namespace Formula

/-- The formula that a finite value is has a finite number, if any. -/
theorem isFinite_of_ofJson? {json : Json} {formula : Formula} (finite : json.IsFinite)
    (found : ofJson? json = some formula) : formula.IsFinite := by
  cases json with
  | string source =>
    cases found
    rintro _ ⟨⟩
  | integer | float =>
    cases found
    exact finite
  | _ => cases found

/-- Formulas that are read have finite numbers. -/
theorem ensures : codec.Ensures IsFinite := by
  intro json formula finite read
  obtain ⟨_, found⟩ := Json.readForms_eq_ok.1 read
  rw [List.findSome?_singleton] at found
  exact isFinite_of_ofJson? finite found

end Formula

namespace FormulaArray

/-- A row that is read has finite numbers. -/
theorem isFinite_of_elements? {json : Json} {formulas : List Formula} (finite : json.IsFinite)
    (read : elements? json = some formulas) : ∀ formula ∈ formulas, formula.IsFinite := by
  cases json with
  | array items closed =>
    have items := Json.areFinite_iff.1 finite
    exact forall_mem_of_mapM
      (fun item member _ => Formula.isFinite_of_ofJson? (items item member)) read
  | _ => cases read

/-- Rows that are read have finite numbers. -/
theorem isFinite_of_rows? {json : Json} {rows : List (List Formula)} (finite : json.IsFinite)
    (read : rows? json = some rows) : ∀ row ∈ rows, ∀ formula ∈ row, formula.IsFinite := by
  cases json with
  | array items closed =>
    have items := Json.areFinite_iff.1 finite
    exact forall_mem_of_mapM (fun item member _ => isFinite_of_elements? (items item member)) read
  | _ => cases read

/-- What has no rows has no elements. -/
theorem elements?_of_rows?_nil {json : Json} (read : rows? json = some []) :
    elements? json = some [] := by
  cases json with
  | array items closed =>
    cases items with
    | nil => rfl
    | cons first others =>
      simp only [rows?, List.mapM_cons] at read
      obtain ⟨row, _, read⟩ := Option.bind_eq_some_iff.1 read
      obtain ⟨rows, _, read⟩ := Option.bind_eq_some_iff.1 read
      cases read
  | _ => cases read

/-- An array that is read has finite numbers, and is a vector if it has no items. -/
theorem ensures : codec.Ensures fun array => array.Consists Formula.IsFinite := by
  intro json array finite read
  obtain ⟨_, found⟩ := Json.readForms_eq_ok.1 read
  cases elements : elements? json with
  | some formulas =>
    simp only [List.findSome?_cons, elements, Option.map_some] at found
    cases found
    exact ⟨by simp, isFinite_of_elements? finite elements⟩
  | none =>
    cases matrix : rows? json with
    | none => simp [elements, matrix] at found
    | some rows =>
      simp only [List.findSome?_cons, elements, matrix, Option.map_none, Option.map_some] at found
      cases found
      refine ⟨?_, fun formula member => ?_⟩
      · -- the form of a vector is tried first
        rintro ⟨⟩
        cases elements.symm.trans (elements?_of_rows?_nil matrix)
      · obtain ⟨row, among, within⟩ := List.mem_flatten.1 member
        exact isFinite_of_rows? finite matrix row among formula within

end FormulaArray

/-- A further array that is read has finite numbers. -/
theorem PostEntry.ensures :
    format.codec.Ensures fun entry => entry.data.Consists Formula.IsFinite := by
  refine RecordFormat.ensures_codec ⟨by decide, List.forall_mem_nil _⟩ ?_
  refine List.forall_mem_cons.2 ⟨?_, List.forall_mem_singleton.2 ?_⟩
  · exact Field.keeps_required Codec.ensures_true fun _ _ _ kept => kept
  · exact Field.keeps_required FormulaArray.ensures fun _ _ finite _ => finite

namespace FilterModel

/-- The model that says nothing has no numbers. -/
theorem consists_blank {property : Formula → Prop} : blank.Consists property where
  transition := nofun
  observation := nofun
  transitionJacobian := nofun
  observationJacobian := nofun
  constants := nofun
  post := nofun

/-- A model that is read has finite numbers, and further arrays that have texts of their
own. -/
theorem ensures : format.codec.Ensures fun model => model.Consists Formula.IsFinite := by
  have row := Formula.ensures.list
  have jacobian := row.list.nullable
  refine RecordFormat.ensures_codec consists_blank ?_
  simp only [format, List.forall_mem_cons]
  refine ⟨?schema, ?name, ?description, ?state, ?transition, ?observation, ?transitionJacobian,
    ?observationJacobian, ?constants, ?post, ?header, List.forall_mem_nil _⟩
  case schema | name | state =>
    exact Field.keeps_required Codec.ensures_true fun _ _ _ kept => { kept with }
  case description | header =>
    exact Field.keeps_optional Codec.ensures_true fun _ _ _ kept => { kept with }
  case transition =>
    exact Field.keeps_required row fun _ _ finite kept => { kept with transition := finite }
  case observation =>
    exact Field.keeps_required row fun _ _ finite kept => { kept with observation := finite }
  case transitionJacobian =>
    exact Field.keeps_optional jacobian fun _ _ finite kept =>
      { kept with transitionJacobian := finite }
  case observationJacobian =>
    exact Field.keeps_optional jacobian fun _ _ finite kept =>
      { kept with observationJacobian := finite }
  case constants =>
    exact Field.keeps_optional Formula.ensures.nameMap fun _ _ finite kept =>
      { kept with constants := finite }
  case post =>
    exact Field.keeps_optional PostEntry.ensures.list fun _ _ finite kept =>
      { kept with post := finite }

/-- A model that is read from a text is read back from its own text, in whatever order its
constants are written, if its numbers are. -/
theorem ofText_toText {text : String} {model : FilterModel} (read : ofText text = .ok model)
    (inverse : ∀ number ∈ model.numbers, number.isFinite → Rereads number) :
    ofText model.toText = .ok model ∧
      ∀ entries, entries.Perm model.constants.entries →
        ofText (model.toTextInOrder entries) = .ok model := by
  obtain ⟨decoded, supported⟩ := ofText_eq_ok.1 read
  have finite : model.Consists Formula.IsFinite := ensures.readText decoded
  have consists : model.Consists Formula.IsReread := by
    refine finite.imp fun formula member finite number found => ?_
    exact inverse number (List.mem_filterMap.2 ⟨formula, member, found⟩) (finite number found)
  have inOrder : ∀ entries, entries.Perm model.constants.entries →
      ofText (model.toTextInOrder entries) = .ok model :=
    fun _ order => consists.ofText_toTextInOrder supported order
  exact ⟨model.toTextInOrder_entries ▸ inOrder _ (.refl _), inOrder⟩

/-- A model file with an empty Jacobian, an empty further array and an empty header section. -/
def decayText : String :=
  "\x7b\"schema\":\"1.0\",\"name\":\"decay\",\"state\":[\"x\"]," ++
    "\"px\":[\"k*x\"],\"hx\":[2],\"F\":[]," ++
    "\"constants\":\x7b\"k\":\"1/b\",\"b\":0.5\x7d," ++
    "\"post\":[\x7b\"name\":\"P\",\"data\":[[1]]\x7d," ++
      "\x7b\"name\":\"q\",\"data\":[]\x7d]," ++
    "\"header\":\x7b\x7d\x7d"

/-- The model that is read from it. -/
def decay : FilterModel where
  schema := "1.0"
  name := "decay"
  description := none
  state := ["x"]
  transition := [.text "k*x"]
  observation := [.number 2]
  transitionJacobian := some []
  observationJacobian := none
  constants := .ofList [("k", .text "1/b"), ("b", .number 0.5)]
  post := [⟨"P", .matrix [[.number 1]]⟩, ⟨"q", .vector []⟩]
  header := some .standard

/-- The decay is read back with its constants in the order of their names, and in the order in
which they came. -/
theorem ofText_toText_of_decay :
    ofText decayText = .ok decay ∧ (∀ number ∈ decay.numbers, Rereads number) ∧
      ofText decay.toText = .ok decay ∧
        ofText (decay.toTextInOrder [("k", .text "1/b"), ("b", .number 0.5)]) = .ok decay := by
  have read : ofText decayText = .ok decay := by
    have found : (ofText decayText).toOption = some decay := by decide +kernel
    cases outcome : ofText decayText with
    | error fault =>
      rw [outcome] at found
      cases found
    | ok model =>
      rw [outcome] at found
      rw [Option.some.inj found]
  have rereads : ∀ number ∈ decay.numbers, Rereads number := by decide +kernel
  have order : [("k", Formula.text "1/b"), ("b", .number 0.5)].Perm decay.constants.entries := by
    decide +kernel
  obtain ⟨written, inOrder⟩ := ofText_toText read fun number member _ => rereads number member
  exact ⟨read, rereads, written, inOrder _ order⟩

end FilterModel

end KalmanHeader
