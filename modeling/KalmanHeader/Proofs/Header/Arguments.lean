import KalmanHeader.Proofs.Header.Declarations

/-!
# The arguments of a function

The function of a header takes the state, then each array to copy to, then the free
parameters. All of them are written alike: a type, a name and extents in brackets, none
of which holds a comma, a parenthesis or the end of a line. So the reader finds the
arguments of a layout in order, with their names.
-/

namespace KalmanHeader

/-- A name that the function takes, with its type and the extents of an array. -/
structure Argument where
  cType : String
  name : String
  extents : List Extent

namespace Argument

/-- The declaration of an argument. -/
def text (options : HeaderOptions) (argument : Argument) : String :=
  argument.cType ++ " " ++ argument.name ++
    String.join (argument.extents.map (Extent.text options))

/-- A free parameter. -/
def parameter (name : String) : Argument :=
  ⟨"double", name, []⟩

/-- The declaration of a free parameter. -/
theorem text_parameter (options : HeaderOptions) (name : String) :
    (parameter name).text options = "double " ++ name := by
  have type : "double" ++ " " = "double " := rfl
  rw [text, parameter, type]
  exact String.append_empty

end Argument

namespace HeaderLayout

/-- What the function takes. -/
def arguments (layout : HeaderLayout) : List Argument :=
  ⟨"const double", "x", [Extent.ofSize .state layout.state.length]⟩ ::
    layout.outputs.map (fun output => ⟨"double", outputName output.name, output.extents⟩) ++
    layout.parameters.toList.map Argument.parameter

/-- The signature declares what the function takes. -/
theorem signature_eq (layout : HeaderLayout) :
    layout.signature = layout.arguments.map (Argument.text layout.options) := by
  have state : "const double x" ++ (Extent.ofSize .state layout.state.length).text layout.options =
      Argument.text layout.options
        ⟨"const double", "x", [Extent.ofSize .state layout.state.length]⟩ := by
    rw [Argument.text, List.map_singleton, String.join_cons, String.join_nil, String.append_empty]
    rfl
  have output : Argument.text layout.options ∘
      (fun output : OutputArray => ⟨"double", outputName output.name, output.extents⟩) =
        OutputArray.parameter layout.options := rfl
  have parameter : Argument.text layout.options ∘ Argument.parameter = ("double " ++ ·) :=
    funext (Argument.text_parameter layout.options)
  rw [signature, arguments, List.map_append, List.map_cons, List.map_map, List.map_map, state,
    output, parameter]

/-- The names of what the function takes. -/
theorem map_name_arguments (layout : HeaderLayout) :
    layout.arguments.map Argument.name =
      "x" :: layout.outputs.map (fun output => outputName output.name) ++
        layout.parameters.toList := by
  have output : Argument.name ∘
      (fun output : OutputArray => ⟨"double", outputName output.name, output.extents⟩) =
        fun output => outputName output.name := rfl
  have parameter : Argument.name ∘ Argument.parameter = id := rfl
  rw [arguments, List.map_append, List.map_cons, List.map_map, List.map_map, output, parameter,
    List.map_id]

end HeaderLayout

namespace Reader

open C

variable {options : HeaderOptions} {argument : Argument} {layout : HeaderLayout}

section Texts

/-- Whether a character may stand within an argument. -/
def IsArgumentPart (character : Char) : Prop :=
  Text.isWordPart character ∨ character = ' ' ∨ character = '[' ∨ character = ']'

instance (character : Char) : Decidable (IsArgumentPart character) :=
  inferInstanceAs (Decidable (_ ∨ _))

/-- Whether the macros for the extents are words. -/
structure HasMacros (options : HeaderOptions) : Prop where
  state : isWord options.stateMacro.toList
  observation : isWord options.observationMacro.toList

/-- Whether an argument declares a word as a double. -/
structure DeclaresWord (argument : Argument) : Prop where
  double : argument.cType = "double" ∨ argument.cType = "const double"
  word : isWord argument.name.toList

/-- What stands in the brackets of an extent. -/
def extentName (options : HeaderOptions) : Extent → List Char
  | .state => options.stateMacro.toList
  | .observation => options.observationMacro.toList
  | .fixed size => Nat.toDigits 10 size

/-- The characters of an extent. -/
theorem toList_extent (options : HeaderOptions) (extent : Extent) :
    (extent.text options).toList = '[' :: (extentName options extent ++ [']']) := by
  have opening : "[".toList = ['['] := rfl
  have closing : "]".toList = [']'] := rfl
  cases extent <;> simp [Extent.text, extentName, opening, closing]

/-- The name of an extent is made of word characters. -/
theorem isWordPart_extentName (macros : HasMacros options) (extent : Extent) :
    ∀ character ∈ extentName options extent, Text.isWordPart character := by
  cases extent with
  | state => exact isWordPart_of_isWord macros.state
  | observation => exact isWordPart_of_isWord macros.observation
  | fixed size =>
    intro character member
    exact Text.isWordPart_of_isDigit (Number.isDigit_of_mem_toDigits character member)

/-- The extents of an argument. -/
def extentsText (options : HeaderOptions) (extents : List Extent) : List Char :=
  extents.flatMap fun extent => (extent.text options).toList

/-- The characters of an argument. -/
theorem toList_text (options : HeaderOptions) (argument : Argument) :
    (argument.text options).toList =
      argument.cType.toList ++ ' ' :: (argument.name.toList ++
        extentsText options argument.extents) := by
  have blank : " ".toList = [' '] := rfl
  rw [Argument.text, extentsText]
  simp only [String.toList_append, String.toList_join, List.flatMap_map, blank, List.append_assoc,
    List.cons_append, List.nil_append]

/-- Extents start with a bracket, where there are any, and have no blank. -/
theorem extentsText_spec (macros : HasMacros options) (extents : List Extent) :
    (extentsText options extents = [] ∨ ∃ rest, extentsText options extents = '[' :: rest) ∧
      ∀ character ∈ extentsText options extents,
        Text.isWordPart character ∨ character = '[' ∨ character = ']' := by
  constructor
  · cases extents with
    | nil => exact .inl rfl
    | cons first others =>
      exact .inr ⟨_, by rw [extentsText, List.flatMap_cons, toList_extent, List.cons_append]⟩
  · intro character member
    obtain ⟨extent, _, found⟩ := List.mem_flatMap.1 member
    rw [toList_extent, List.mem_cons, List.mem_append, List.mem_singleton] at found
    rcases found with opening | inner | closing
    · exact .inr (.inl opening)
    · exact .inl (isWordPart_extentName macros extent character inner)
    · exact .inr (.inr closing)

/-- The characters of an argument are those of arguments. -/
theorem isArgumentPart_text (macros : HasMacros options) (declares : DeclaresWord argument) :
    ∀ character ∈ (argument.text options).toList, IsArgumentPart character := by
  obtain ⟨_, extents⟩ := extentsText_spec macros argument.extents
  have type : argument.cType.toList.all fun character => decide (IsArgumentPart character) := by
    rcases declares.double with double | double
    · rw [double]
      decide
    · rw [double]
      decide
  have type : ∀ character ∈ argument.cType.toList, IsArgumentPart character := fun character member =>
    of_decide_eq_true (List.all_eq_true.1 type character member)
  rw [toList_text]
  simp only [List.forall_mem_append, List.forall_mem_cons]
  refine ⟨type, by decide, fun character member => ?_, fun character member => ?_⟩
  · exact .inl (isWordPart_of_isWord declares.word character member)
  · exact (extents character member).imp_right .inr

/-- An argument does not start with a blank. -/
theorem dropWhile_text (declares : DeclaresWord argument) (options : HeaderOptions) :
    (argument.text options).toList.dropWhile (· == ' ') = (argument.text options).toList := by
  rw [toList_text]
  rcases declares.double with double | double
  · rw [double]
    rfl
  · rw [double]
    rfl

/-- The name that an argument declares is its name. -/
theorem argumentName_text (macros : HasMacros options) (declares : DeclaresWord argument) :
    argumentName (argument.text options) = argument.name := by
  obtain ⟨bracketed, extents⟩ := extentsText_spec macros argument.extents
  have outside : ∀ {character : Char}, Text.isWordPart character = false →
      character ∉ argument.name.toList := notMem_of_isWord declares.word
  have noBlank : ' ' ∉ argument.name.toList ++ extentsText options argument.extents := by
    rw [List.mem_append, not_or]
    exact ⟨outside (by decide), fun member => absurd (extents _ member) (by decide)⟩
  have lastWord : ((argument.text options).toList.reverse.takeWhile (· != ' ')).reverse =
      argument.name.toList ++ extentsText options argument.extents := by
    rw [toList_text, reverse_takeWhile_ne noBlank]
  have name : (argument.name.toList ++ extentsText options argument.extents).takeWhile (· != '[') =
      argument.name.toList := by
    rcases bracketed with none | ⟨rest, some⟩
    · rw [none, List.append_nil, List.takeWhile_eq_self_iff]
      exact ne_of_absent (outside (by decide))
    · rw [some, takeWhile_ne (outside (by decide))]
  rw [argumentName, lastWord, name, String.ofList_toList]

end Texts

section Signatures

/-- Whether a function is declared with words. -/
structure Callable (layout : HeaderLayout) : Prop extends HasMacros layout.options where
  function : isWord layout.options.functionName.toList
  outputs : ∀ output ∈ layout.outputs, isWord output.name.toList
  parameters : ∀ name ∈ layout.parameters.toList, isWord name.toList

/-- The name of the parameter that an array is copied to is a word. -/
theorem isWord_outputName {name : String} (word : isWord name.toList) :
    isWord (outputName name).toList := by
  have ending : "_out".toList.all Text.isWordPart = true := by decide
  rw [outputName, String.toList_append]
  cases characters : name.toList with
  | nil => rfl
  | cons first rest =>
    rw [characters, isWord, Bool.and_eq_true] at word
    rw [List.cons_append, isWord, List.all_append, word.1, word.2, ending]
    rfl

/-- The arguments of a function declare words. -/
theorem declaresWord_arguments (callable : Callable layout) :
    ∀ argument ∈ layout.arguments, DeclaresWord argument := by
  simp only [HeaderLayout.arguments, List.forall_mem_append, List.forall_mem_cons,
    List.forall_mem_map]
  have state : isWord "x".toList := by decide
  exact ⟨⟨⟨.inr rfl, state⟩, fun output member =>
    ⟨.inl rfl, isWord_outputName (callable.outputs output member)⟩⟩, fun name member =>
    ⟨.inl rfl, callable.parameters name member⟩⟩

/-- What stands between the separators of a list of arguments are the arguments. -/
theorem map_pieces {texts : List String} (present : texts ≠ [])
    (balanced : ∀ text ∈ texts, Balanced text.toList)
    (start : ∀ text ∈ texts, text.toList.dropWhile (· == ' ') = text.toList) :
    ((pieces 0 (separator.intercalate texts).toList).map fun piece =>
      String.ofList (piece.dropWhile (· == ' '))) = texts := by
  obtain ⟨first, others, rfl⟩ := List.exists_cons_of_ne_nil present
  obtain ⟨head, tail⟩ := List.forall_mem_cons.1 start
  have rest : ∀ text ∈ others,
      String.ofList ((' ' :: text.toList).dropWhile (· == ' ')) = text := by
    intro text member
    rw [List.dropWhile_cons_of_pos rfl, tail text member, String.ofList_toList]
  rw [pieces_intercalate balanced, List.map_cons, head, String.ofList_toList, List.map_map]
  exact congrArg (first :: ·) ((List.map_congr_left rest).trans (List.map_id' others))

/-- The characters of the arguments of a function are those of arguments. -/
theorem isArgumentPart_signature (callable : Callable layout) :
    ∀ text ∈ layout.signature, ∀ character ∈ text.toList, IsArgumentPart character := by
  rw [layout.signature_eq, List.forall_mem_map]
  exact fun argument member =>
    isArgumentPart_text callable.toHasMacros (declaresWord_arguments callable argument member)

/-- The arguments of a function are balanced. -/
theorem balanced_signature (callable : Callable layout) :
    ∀ text ∈ layout.signature, Balanced text.toList := by
  refine fun text member => balanced_plain fun character found => ?_
  have part := isArgumentPart_signature callable text member character found
  refine ⟨?_, ?_, ?_⟩ <;> rintro rfl <;> exact absurd part (by decide)

/-- No argument and no separator ends the line or the list of arguments. -/
theorem forall_mem_signature (callable : Callable layout) :
    ∀ character ∈ (separator.intercalate layout.signature).toList,
      character ≠ '\n' ∧ character ≠ ')' := by
  refine forall_mem_intercalate (by decide) (by decide) fun text member character found => ?_
  have part := isArgumentPart_signature callable text member character found
  constructor <;> rintro rfl <;> exact absurd part (by decide)

/-- The characters of the line that the function starts with. -/
theorem headText_eq (layout : HeaderLayout) :
    headText layout = ("static void ".toList ++ layout.options.functionName.toList) ++
      '(' :: ((separator.intercalate layout.signature).toList ++ [')']) := by
  have opening : "(".toList = ['('] := rfl
  have closing : ")".toList = [')'] := rfl
  simp only [headText, String.toList_append, opening, closing, List.append_assoc, List.cons_append,
    List.nil_append]

/-- No line ends within the line that the function starts with. -/
theorem notMem_headText (callable : Callable layout) : '\n' ∉ headText layout := by
  have front : '\n' ∉ "static void ".toList ++ layout.options.functionName.toList :=
    List.not_mem_append (by decide) (notMem_of_isWord callable.function (by decide))
  rw [headText_eq]
  exact List.not_mem_append front (List.not_mem_cons_of_ne_of_not_mem (by decide)
    (List.not_mem_append (fun member => (forall_mem_signature callable _ member).1 rfl)
      (by decide)))

/-- The line that the function of a layout starts with. -/
theorem headLine_text (distinct : layout.state.Nodup)
    (declarable : ∀ output ∈ layout.outputs, Declarable layout.state output)
    (guarded : '\n' ∉ layout.guard.toList) (callable : Callable layout) :
    headLine layout.text = headText layout := by
  obtain ⟨before, whole⟩ := exists_toList_text layout
  obtain ⟨single', brace⟩ := closingLines_spec distinct declarable guarded
  exact headLine_of whole (notMem_headText callable) single' brace

/-- The arguments of the function of a layout. -/
theorem arguments_text (distinct : layout.state.Nodup)
    (declarable : ∀ output ∈ layout.outputs, Declarable layout.state output)
    (guarded : '\n' ∉ layout.guard.toList) (callable : Callable layout) :
    arguments layout.text = layout.signature := by
  have start : ∀ text ∈ layout.signature, text.toList.dropWhile (· == ' ') = text.toList := by
    rw [layout.signature_eq, List.forall_mem_map]
    exact fun argument member =>
      dropWhile_text (declaresWord_arguments callable argument member) layout.options
  have front : '(' ∉ "static void ".toList ++ layout.options.functionName.toList :=
    List.not_mem_append (by decide) (notMem_of_isWord callable.function (by decide))
  rw [arguments, headLine_text distinct declarable guarded callable, headText_eq, dropWhile_ne front,
    List.drop_succ_cons, List.drop_zero,
    takeWhile_ne fun member => (forall_mem_signature callable _ member).2 rfl]
  exact map_pieces (List.cons_ne_nil _ _) (balanced_signature callable) start

/-- Of items with different labels exactly one has the label of an item. -/
theorem filter_eq_singleton {α β : Type} [BEq β] [LawfulBEq β] {label : α → β} {items : List α}
    {item : α} (different : (items.map label).Nodup) (member : item ∈ items) :
    (items.filter fun other => label other == label item) = [item] := by
  induction items with
  | nil => contradiction
  | cons first others ih =>
    obtain ⟨unique, different⟩ := List.nodup_cons.1 different
    by_cases same : label first = label item
    · have absent : ∀ other ∈ others, ¬(label other == label item) = true := by
        intro other found equal
        exact unique (List.mem_map.2 ⟨other, found, (eq_of_beq equal).trans same.symm⟩)
      have only : item = first := by
        refine (List.mem_cons.1 member).resolve_right fun found => ?_
        exact absurd (beq_self_eq_true _) (absent item found)
      rw [List.filter_cons, if_pos (beq_iff_eq.2 same), List.filter_eq_nil_iff.2 absent, only]
    · have later : item ∈ others :=
        (List.mem_cons.1 member).resolve_left fun equal => same (congrArg label equal.symm)
      rw [List.filter_cons, if_neg (mt eq_of_beq same), ih different later]

/-- One argument of a function declares the name of an argument. -/
theorem filter_signature_of_mem (callable : Callable layout)
    (different : (layout.arguments.map Argument.name).Nodup)
    (member : argument ∈ layout.arguments) :
    (layout.signature.filter fun text => argumentName text == argument.name) =
      [argument.text layout.options] := by
  have named : ∀ other ∈ layout.arguments,
      (argumentName (other.text layout.options) == argument.name) =
        (other.name == argument.name) := by
    intro other found
    rw [argumentName_text callable.toHasMacros (declaresWord_arguments callable other found)]
  rw [layout.signature_eq, List.filter_map]
  refine (congrArg _ (List.filter_congr named)).trans ?_
  rw [filter_eq_singleton different member, List.map_singleton]

/-- The one argument of a function that declares a free parameter declares it as a double. -/
theorem filter_signature (callable : Callable layout)
    (different : (layout.arguments.map Argument.name).Nodup) {name : String}
    (member : name ∈ layout.parameters.toList) :
    (layout.signature.filter fun argument => argumentName argument == name) =
      ["double " ++ name] := by
  have listed : Argument.parameter name ∈ layout.arguments :=
    List.mem_append_right _ (List.mem_map_of_mem member)
  have only := filter_signature_of_mem callable different listed
  rw [Argument.text_parameter] at only
  exact only

/-- The one argument of a function that declares the state declares it as an array. -/
theorem exists_filter_signature (callable : Callable layout)
    (different : (layout.arguments.map Argument.name).Nodup) :
    ∃ extent, (layout.signature.filter fun argument => argumentName argument == "x") =
      ["const double x[" ++ extent ++ "]"] := by
  have only := filter_signature_of_mem callable different List.mem_cons_self
  refine ⟨String.ofList (extentName layout.options (Extent.ofSize .state layout.state.length)),
    only.trans (congrArg (fun text => [text]) (String.toList_inj.1 ?_))⟩
  have start : "const double x[".toList = "const double".toList ++ ' ' :: ("x".toList ++ ['[']) :=
    rfl
  have closing : "]".toList = [']'] := rfl
  rw [toList_text, extentsText, List.flatMap_singleton, toList_extent]
  simp only [String.toList_append, String.toList_ofList, start, closing, List.append_assoc,
    List.cons_append, List.nil_append]

end Signatures

end Reader

end KalmanHeader
