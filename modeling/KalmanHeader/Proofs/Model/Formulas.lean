import KalmanHeader.Model.Encoding
import KalmanHeader.Proofs.Json.Invariant

/-!
# Formulas of a model file

What a model consists of, besides names and descriptions, is formulas. If the numbers among
them are read back from their own text, the text of the model is read as the model, in
whatever order its constants are written. A further array without rows is no part of such a
model, since its text is that of an array without elements.
-/

namespace KalmanHeader

open Json (Codec Field IsReadable RecordFormat Rereads)

/-- What is complete is read in the first form that fits. -/
theorem Json.readForms_eq_ok {α : Type} {enumeration : String} {forms : List (Json → Option α)}
    {json : Json} {value : α} :
    readForms enumeration forms json = .ok value ↔
      json.isIntact ∧ (forms.findSome? fun form => form json) = some value := by
  unfold readForms
  cases json.isIntact with
  | false => simp
  | true => cases forms.findSome? fun form => form json <;> simp

namespace Formula

variable {depth : Nat} {formula : Formula} {formulas : List Formula}

/-- The number that a formula is, if it is one. -/
def number? : Formula → Option Float
  | .number value => some value
  | .text _ => none

/-- Whether the number that a formula is, if it is one, is read back from its text. -/
def IsReread (formula : Formula) : Prop :=
  ∀ number ∈ formula.number?, Rereads number

/-- Whether the number that a formula is, if it is one, is finite. -/
def IsFinite (formula : Formula) : Prop :=
  ∀ number ∈ formula.number?, number.isFinite

/-- A formula is read back from its JSON. -/
theorem ofJson?_write (formula : Formula) : ofJson? (codec.write formula) = some formula := by
  cases formula <;> rfl

/-- Formulas are restored. -/
theorem IsReread.restores (reread : formula.IsReread) : codec.Restores depth formula := by
  cases formula with
  | number value => exact ⟨Json.isReadable_float.2 (reread value rfl), rfl⟩
  | text source => exact ⟨Json.isReadable_string source, rfl⟩

/-- Rows of formulas are restored. -/
theorem restores_row (each : ∀ formula ∈ formulas, formula.IsReread) :
    (Codec.list codec).Restores (depth + 1) formulas :=
  Codec.restores_list fun formula member => (each formula member).restores

/-- Lists of rows are restored. -/
theorem restores_rows {rows : List (List Formula)}
    (each : ∀ row ∈ rows, ∀ formula ∈ row, formula.IsReread) :
    (Codec.list (Codec.list codec)).Restores (depth + 2) rows :=
  Codec.restores_list fun row member => restores_row (each row member)

/-- A Jacobian is restored. -/
theorem restores_jacobian {jacobian : Option (List (List Formula))}
    (each : ∀ rows ∈ jacobian, ∀ row ∈ rows, ∀ formula ∈ row, formula.IsReread) :
    FilterModel.format.jacobian.Restores (depth + 2) jacobian := by
  cases jacobian with
  | none => exact Codec.restores_none
  | some rows => exact Codec.restores_some (restores_rows (each rows rfl)) nofun

end Formula

namespace FormulaArray

/-- The formulas of an array. -/
def formulas : FormulaArray → List Formula
  | .vector elements => elements
  | .matrix rows => rows.flatten

/-- Whether an array has a text of its own, and formulas with a property. -/
structure Consists (array : FormulaArray) (property : Formula → Prop) : Prop where
  determined : array ≠ .matrix []
  formulas : ∀ formula ∈ array.formulas, property formula

/-- Items that are read back one by one are read back. -/
theorem mapM_write {α : Type} {read? : Json → Option α} {write : α → Json}
    (each : ∀ value, read? (write value) = some value) (values : List α) :
    (values.map write).mapM read? = some values := by
  rw [List.mapM_map]
  exact (mapM_eq_some fun value _ => each value).trans (congrArg some (List.map_id' values))

/-- Arrays are restored. The rows of a matrix are no formulas, so it is not read as a
vector. -/
theorem Consists.restores {depth : Nat} {array : FormulaArray}
    (consists : array.Consists Formula.IsReread) : codec.Restores (depth + 2) array := by
  obtain ⟨determined, each⟩ := consists
  cases array with
  | vector elements =>
    have readable : IsReadable (depth + 2) (codec.write (.vector elements)) :=
      (Formula.restores_row each).readable
    have read : elements? (codec.write (.vector elements)) = some elements :=
      mapM_write Formula.ofJson?_write elements
    refine ⟨readable, Json.readForms_eq_ok.2 ⟨readable.isIntact, ?_⟩⟩
    simp only [List.findSome?_cons, read, Option.map_some]
  | matrix rows =>
    have readable : IsReadable (depth + 2) (codec.write (.matrix rows)) :=
      (Formula.restores_rows fun row member formula found =>
        each formula (List.mem_flatten_of_mem member found)).readable
    have read : rows? (codec.write (.matrix rows)) = some rows :=
      mapM_write (mapM_write Formula.ofJson?_write) rows
    have noVector : elements? (codec.write (.matrix rows)) = none := by
      cases rows with
      | nil => exact absurd rfl determined
      | cons first others => rfl
    refine ⟨readable, Json.readForms_eq_ok.2 ⟨readable.isIntact, ?_⟩⟩
    simp only [List.findSome?_cons, noVector, Option.map_none, read, Option.map_some]

end FormulaArray

/-- Further arrays are restored. -/
theorem PostEntry.restores {depth : Nat} {entry : PostEntry}
    (consists : entry.data.Consists Formula.IsReread) :
    format.codec.Restores (depth + 3) entry := by
  refine RecordFormat.Assembles.restores ?_ (by decide)
  exact .cons (Field.copies_required (Codec.restores_string entry.name))
    (.cons (Field.copies_required consists.restores) .nil)

/-- Names chosen for a header are restored. -/
theorem HeaderOptions.restores {depth : Nat} (options : HeaderOptions) :
    format.codec.Restores (depth + 1) options := by
  refine RecordFormat.Assembles.restores ?_ (by decide)
  exact .cons (Field.copies_optional (fun _ => Codec.restores_string _) nofun)
    (.cons (Field.copies_optional (fun _ => Codec.restores_string _) nofun)
      (.cons (Field.copies_optional (fun _ => Codec.restores_string _) nofun)
        (.cons (Field.copies_optional (fun _ => Codec.restores_string _) nofun)
          (.cons (Field.copies_nullable (Codec.restores_text _) rfl) .nil))))

namespace FilterModel

/-- A text is a model if it is read as one with a version that is supported. -/
theorem ofText_eq_ok {text : String} {model : FilterModel} :
    ofText text = .ok model ↔
      format.codec.readText text = .ok model ∧ model.schema ∈ supportedSchemas := by
  rw [ofText]
  cases format.codec.readText text with
  | error fault => simp
  | ok found =>
    simp only [← List.contains_iff_mem]
    constructor
    · intro checked
      split at checked
      · rename_i known
        cases checked
        exact ⟨rfl, known⟩
      · cases checked
    · rintro ⟨⟨⟩, known⟩
      exact if_pos known

/-- The formulas of a model. -/
def formulas (model : FilterModel) : List Formula :=
  model.transition ++ (model.observation ++ ((model.transitionJacobian.getD []).flatten ++
    ((model.observationJacobian.getD []).flatten ++ (model.constants.entries.map Prod.snd ++
      model.post.flatMap fun entry => entry.data.formulas))))

/-- The numbers of a model. -/
def numbers (model : FilterModel) : List Float :=
  model.formulas.filterMap Formula.number?

/-- Whether the formulas of a model have a property, and its further arrays have texts of
their own. -/
structure Consists (model : FilterModel) (property : Formula → Prop) : Prop where
  transition : ∀ formula ∈ model.transition, property formula
  observation : ∀ formula ∈ model.observation, property formula
  transitionJacobian :
    ∀ rows ∈ model.transitionJacobian, ∀ row ∈ rows, ∀ formula ∈ row, property formula
  observationJacobian :
    ∀ rows ∈ model.observationJacobian, ∀ row ∈ rows, ∀ formula ∈ row, property formula
  constants : ∀ entry ∈ model.constants.entries, property entry.2
  post : ∀ entry ∈ model.post, entry.data.Consists property

/-- What follows from the property holds as well. -/
theorem Consists.imp {model : FilterModel} {property property' : Formula → Prop}
    (consists : model.Consists property)
    (follows : ∀ formula ∈ model.formulas, property formula → property' formula) :
    model.Consists property' := by
  simp only [formulas, List.forall_mem_append] at follows
  obtain ⟨transition, observation, transitionJacobian, observationJacobian, constants, post⟩ :=
    follows
  refine ⟨fun formula member => transition formula member (consists.transition formula member),
    fun formula member => observation formula member (consists.observation formula member),
    fun rows given row member formula found => ?_, fun rows given row member formula found => ?_,
    fun entry member => constants entry.2 (List.mem_map_of_mem member)
      (consists.constants entry member),
    fun entry member => ⟨(consists.post entry member).determined, fun formula found =>
      post formula (List.mem_flatMap_of_mem member found)
        ((consists.post entry member).formulas formula found)⟩⟩
  · refine transitionJacobian formula ?_
      (consists.transitionJacobian rows given row member formula found)
    rw [Option.mem_def.1 given]
    exact List.mem_flatten_of_mem member found
  · refine observationJacobian formula ?_
      (consists.observationJacobian rows given row member formula found)
    rw [Option.mem_def.1 given]
    exact List.mem_flatten_of_mem member found

/-- What is written for a field of a model whose constants come in the order of `entries`. -/
def writtenInOrder (model : FilterModel) (entries : List (String × Formula))
    (field : Json.Field FilterModel) : Option Json :=
  (field.write model).map fun json =>
    if field.name = "constants" then
      .record (entries.map fun entry => (entry.1, Formula.codec.write entry.2))
    else json

/-- The text of a model file whose constants come in the order of `entries`. -/
def toTextInOrder (model : FilterModel) (entries : List (String × Formula)) : String :=
  (Json.record (RecordFormat.membersOf format.fields (model.writtenInOrder entries))).pretty

section Writing

variable {model : FilterModel} {entries : List (String × Formula)} {depth : Nat}

/-- The order of the constants matters for no other field. -/
theorem writtenInOrder_of_ne {field : Json.Field FilterModel} (other : field.name ≠ "constants") :
    model.writtenInOrder entries field = field.write model := by
  rw [writtenInOrder]
  simp only [other, ↓reduceIte, Option.map_id']

/-- A field other than the constants is copied in any order of the constants. -/
theorem assembles_cons_of_ne {field : Json.Field FilterModel}
    {fields : List (Json.Field FilterModel)} {record record' record'' : FilterModel}
    (other : field.name ≠ "constants")
    (head : field.Copies depth (field.write model) record record')
    (tail : RecordFormat.Assembles depth (model.writtenInOrder entries) fields record' record'') :
    RecordFormat.Assembles depth (model.writtenInOrder entries) (field :: fields) record
      record'' :=
  .cons (writtenInOrder_of_ne other ▸ head) tail

/-- The order of the constants is that of their names, unless another one is chosen. -/
theorem toTextInOrder_entries (model : FilterModel) :
    model.toTextInOrder model.constants.entries = model.toText := by
  have written : ∀ field ∈ format.fields,
      model.writtenInOrder model.constants.entries field = field.write model := by
    intro field member
    by_cases constants : field.name = "constants"
    · cases constants ▸ @RecordFormat.find?_name FilterModel format (by decide) field member
      by_cases empty : model.constants.entries = [] <;>
        simp [writtenInOrder, Json.Field.optional, Codec.nameMap, empty]
    · exact writtenInOrder_of_ne constants
  have members : RecordFormat.membersOf format.fields
      (model.writtenInOrder model.constants.entries) = format.members model :=
    List.filterMap_congr fun field member => by rw [written field member]
  rw [toTextInOrder, members]
  rfl

/-- Constants are copied in any order. -/
theorem copies_constants {set : NameMap Formula → FilterModel → FilterModel}
    {record : FilterModel} (order : entries.Perm model.constants.entries)
    (each : ∀ entry ∈ model.constants.entries, entry.2.IsReread)
    (absent : record = set .empty record) :
    (Json.Field.optional "constants" (.nameMap Formula.codec)
      (fun constants => constants.entries.isEmpty) FilterModel.constants set).Copies (depth + 1)
        (model.writtenInOrder entries (.optional "constants" (.nameMap Formula.codec)
          (fun constants => constants.entries.isEmpty) FilterModel.constants set))
        record (set model.constants record) := by
  have restores : ∀ entry ∈ model.constants.entries, Formula.codec.Restores depth entry.2 :=
    fun entry member => (each entry member).restores
  change Json.Field.Copies _ _ ((if model.constants.entries.isEmpty then none
    else some ((Codec.nameMap Formula.codec).write model.constants)).map fun _ =>
      Json.record (entries.map fun entry => (entry.1, Formula.codec.write entry.2))) _ _
  cases empty : model.constants.entries.isEmpty with
  | true =>
    have same : model.constants = .empty := NameMap.ext (List.isEmpty_iff.1 empty)
    exact ⟨rfl, same ▸ absent⟩
  | false =>
    refine ⟨⟨rfl, List.forall_mem_map.2 fun entry member =>
      (restores entry (order.mem_iff.1 member)).readable⟩, ?_⟩
    change ((Codec.nameMap Formula.codec).read _).map _ = _
    rw [Codec.read_nameMap order fun entry member => (restores entry member).read]
    rfl

/-- The fields of a model take the model that says nothing to it, one after another. -/
theorem Consists.assembles (consists : model.Consists Formula.IsReread)
    (order : entries.Perm model.constants.entries) :
    RecordFormat.Assembles (depth + 4) (model.writtenInOrder entries) format.fields format.blank
      model := by
  have header : (Codec.nullable HeaderOptions.format.codec).Restores (depth + 4) model.header := by
    cases model.header with
    | none => exact Codec.restores_none
    | some options => exact Codec.restores_some options.restores nofun
  refine assembles_cons_of_ne (by decide) (Field.copies_required (Codec.restores_string _)) ?_
  dsimp only [format, blank]
  refine assembles_cons_of_ne (by decide) (Field.copies_required (Codec.restores_string _)) ?_
  dsimp only
  refine assembles_cons_of_ne (by decide)
    (Field.copies_nullable (Codec.restores_text _) rfl) ?_
  dsimp only
  refine assembles_cons_of_ne (by decide) (Field.copies_required
    (Codec.restores_list fun name _ => Codec.restores_string name)) ?_
  dsimp only
  refine assembles_cons_of_ne (by decide) (Field.copies_required
    (Formula.restores_row consists.transition)) ?_
  dsimp only
  refine assembles_cons_of_ne (by decide) (Field.copies_required
    (Formula.restores_row consists.observation)) ?_
  dsimp only
  refine assembles_cons_of_ne (by decide)
    (Field.copies_nullable (Formula.restores_jacobian consists.transitionJacobian) rfl) ?_
  dsimp only
  refine assembles_cons_of_ne (by decide)
    (Field.copies_nullable (Formula.restores_jacobian consists.observationJacobian) rfl) ?_
  dsimp only
  refine .cons (copies_constants order consists.constants rfl) ?_
  dsimp only
  refine assembles_cons_of_ne (by decide) (Field.copies_optional
    (fun _ => Codec.restores_list fun entry member =>
      PostEntry.restores (consists.post entry member)) fun absent => ?_) ?_
  · rw [List.isEmpty_iff.1 absent]
  dsimp only
  exact assembles_cons_of_ne (by decide) (Field.copies_nullable header rfl) .nil

/-- A model whose numbers are read back is read from its text. -/
theorem Consists.ofText_toTextInOrder (consists : model.Consists Formula.IsReread)
    (supported : model.schema ∈ supportedSchemas) (order : entries.Perm model.constants.entries) :
    ofText (model.toTextInOrder entries) = .ok model := by
  have assembles : RecordFormat.Assembles 126 (model.writtenInOrder entries) format.fields
      format.blank model := consists.assembles order
  have read : format.codec.readText (model.toTextInOrder entries) = .ok model :=
    Codec.readText_pretty assembles.readable (assembles.readObject (by decide))
  exact ofText_eq_ok.2 ⟨read, supported⟩

end Writing

end FilterModel

end KalmanHeader
