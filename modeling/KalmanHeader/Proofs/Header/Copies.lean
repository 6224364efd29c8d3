import KalmanHeader.Proofs.Header.Scope

/-!
# Copies fill their parameters

An array is declared with a size, listed element by element, and copied to a parameter
whose extents mostly are the dimension macros. The three are written down in different
places, and they agree wherever an array is copied. An array without elements is not
copied, and its parameter has room for one element all the same.
-/

namespace KalmanHeader

/-- The number that an extent stands for, given those of the dimension macros. -/
def Extent.value (states observations : Nat) : Extent → Nat
  | .state => states
  | .observation => observations
  | .fixed size => size

/-- The arguments of the call that copies an array. -/
def copyCall (name : String) : List String :=
  [name ++ "_out", name, "sizeof(" ++ name ++ ")"]

namespace Reader

open C

variable {layout : HeaderLayout} {options : HeaderOptions} {state : List String}
  {output : OutputArray} {name : String} {line text : List Char}

/-- A text does not start like another one where a long enough piece of it does not. -/
theorem not_isPrefixOf_append {start known : List Char} (long : start.length ≤ known.length)
    (other : start.isPrefixOf known = false) (rest : List Char) :
    start.isPrefixOf (known ++ rest) = false := by
  refine Bool.eq_false_iff.2 fun same => absurd other ?_
  have begins := List.prefix_of_prefix_length_le (List.isPrefixOf_iff_prefix.1 same)
    (List.prefix_append known rest) long
  rw [List.isPrefixOf_iff_prefix.2 begins]
  decide

section Definitions

/-- A line that defines a macro as a number. -/
theorem definition?_definitionText (word : isWord name.toList) (value : Nat) :
    definition? (definitionText name value) = some (name, value) := by
  have named : ' ' ∉ name.toList := notMem_of_isWord word (by decide)
  have blank : " ".toList = [' '] := rfl
  have start : "#define ".toList = definitionStart := rfl
  have text : definitionText name value =
      definitionStart ++ (name.toList ++ ' ' :: Nat.toDigits 10 value) := by
    simp only [definitionText, String.toList_append, toList_toString, blank, start,
      List.append_assoc, List.cons_append, List.nil_append]
  have digits : Nat.toDigits 10 value ≠ [] ∧ (Nat.toDigits 10 value).all Char.isDigit :=
    ⟨Nat.toDigits_ne_nil, List.all_eq_true.2 Number.isDigit_of_mem_toDigits⟩
  have isStart : definitionStart.isPrefixOf (definitionText name value) = true :=
    List.isPrefixOf_iff_prefix.2 (text ▸ List.prefix_append _ _)
  rw [definition?, if_pos isStart, text]
  simp only [List.drop_left, dropWhile_ne named, takeWhile_ne named, List.drop_succ_cons,
    List.drop_zero, if_pos digits, String.ofList_toList, Nat.ofDigitChars_ten_toDigits]

/-- No line ends within a definition. -/
theorem notMem_definitionText (word : isWord name.toList) (value : Nat) :
    '\n' ∉ definitionText name value := by
  simp only [definitionText, String.toList_append, toList_toString, List.mem_append, not_or]
  exact ⟨⟨⟨by decide, notMem_of_isWord word (by decide)⟩, by decide⟩, fun digit =>
    absurd (Number.isDigit_of_mem_toDigits _ digit) (by decide)⟩

/-- A line that does not start like a definition defines nothing. -/
theorem definition?_of_not_start (other : definitionStart.isPrefixOf line = false) :
    definition? line = none := by
  rw [definition?, other, if_neg Bool.false_ne_true]

/-- A line that starts with another character defines nothing. -/
theorem definition?_of_head? (other : ∀ character ∈ line.head?, character ≠ '#') :
    definition? line = none := by
  refine definition?_of_not_start ?_
  cases line with
  | nil => rfl
  | cons first rest =>
    have different : ('#' == first) = false := beq_eq_false_iff_ne.2 (other first rfl).symm
    have start : definitionStart = '#' :: "define ".toList := rfl
    rw [start, List.isPrefixOf_cons_cons, different, Bool.false_and]

/-- Nothing is defined after the dimension macros. -/
theorem definition?_afterwards (layout : HeaderLayout) :
    ∀ line ∈ (macroLines layout).drop 2 ++
      headText layout :: ['\x7b'] :: (closingLines layout ++ [[]]), definition? line = none := by
  have including : definition?
      ("#include \"" ++ layout.options.libraryInclude ++ "\"").toList = none := by
    rw [String.toList_append, String.toList_append, List.append_assoc]
    exact definition?_of_not_start (not_isPrefixOf_append (by decide) (by decide) _)
  have head : definition? (headText layout) = none := by
    rw [headText_eq, List.append_assoc]
    exact definition?_of_not_start (not_isPrefixOf_append (by decide) (by decide) _)
  have guardLine : definition? ("#endif /* ".toList ++ (layout.guard.toList ++ " */".toList)) =
      none := definition?_of_not_start (not_isPrefixOf_append (by decide) (by decide) _)
  have function : ∀ line ∈ functionLines layout, definition? line = none := by
    intro line member
    refine definition?_of_head? fun character found => ?_
    rw [head?_functionLines layout line member character found]
    decide
  simp only [macroLines, closingLines, List.drop_succ_cons, List.drop_zero, List.forall_mem_append,
    List.forall_mem_cons]
  exact ⟨⟨rfl, including, rfl, List.forall_mem_nil _⟩, head, rfl,
    ⟨function, rfl, rfl, guardLine, List.forall_mem_nil _⟩, rfl, List.forall_mem_nil _⟩

/-- The last names that a header defines as numbers are the dimension macros. -/
theorem exists_definitions_text (distinct : layout.state.Nodup)
    (declarable : ∀ output ∈ layout.outputs, Declarable layout.state output)
    (guarded : '\n' ∉ layout.guard.toList) (callable : Callable layout)
    (included : '\n' ∉ layout.options.libraryInclude.toList) :
    ∃ earlier, definitions layout.text =
      (layout.options.observationMacro, layout.observationCount) ::
        (layout.options.stateMacro, layout.state.length) :: earlier := by
  obtain ⟨front, whole⟩ := exists_toList_text_macros layout
  obtain ⟨single, _⟩ := closingLines_spec distinct declarable guarded
  have including : '\n' ∉ ("#include \"" ++ layout.options.libraryInclude ++ "\"").toList := by
    simp only [String.toList_append, List.mem_append, not_or]
    exact ⟨⟨by decide, included⟩, by decide⟩
  have lines : ∀ line ∈ macroLines layout ++ headText layout :: ['\x7b'] :: closingLines layout,
      '\n' ∉ line := by
    simp only [macroLines, List.forall_mem_append, List.forall_mem_cons]
    exact ⟨⟨notMem_definitionText callable.state _, notMem_definitionText callable.observation _,
      by decide, including, by decide, List.forall_mem_nil _⟩, notMem_headText callable, by decide,
      single⟩
  have split : macroLines layout ++ headText layout :: ['\x7b'] :: closingLines layout ++ [[]] =
      definitionText layout.options.stateMacro layout.state.length ::
        definitionText layout.options.observationMacro layout.observationCount ::
          ((macroLines layout).drop 2 ++
            headText layout :: ['\x7b'] :: (closingLines layout ++ [[]])) := rfl
  have found : (layout.text.toList.splitOn '\n').filterMap definition? =
      (front.splitOn '\n').filterMap definition? ++
        [(layout.options.stateMacro, layout.state.length),
          (layout.options.observationMacro, layout.observationCount)] := by
    rw [splitOn_of whole lines, List.filterMap_append, split,
      List.filterMap_cons_some (definition?_definitionText callable.state _),
      List.filterMap_cons_some (definition?_definitionText callable.observation _),
      List.filterMap_eq_nil_iff.2 (definition?_afterwards layout)]
  rw [definitions, found, List.reverse_append]
  exact ⟨_, rfl⟩

end Definitions

section Extents

/-- What stands before the first bracket of a text makes no difference. -/
theorem brackets_append (plain : '[' ∉ text) (rest : List Char) :
    brackets (text ++ rest) = brackets rest := by
  induction text with
  | nil => rfl
  | cons first others ih =>
    rw [List.mem_cons, not_or] at plain
    obtain ⟨different, plain⟩ := plain
    rw [List.cons_append, brackets, if_neg (Ne.symm different), ih plain]

/-- The brackets of some extents. -/
theorem brackets_extentsText (macros : HasMacros options) (extents : List Extent) :
    brackets (extentsText options extents) = extents.map (extentName options) := by
  induction extents with
  | nil => rfl
  | cons first others ih =>
    have outside : ∀ character, Text.isWordPart character = false →
        character ∉ extentName options first := by
      intro character noPart member
      rw [isWordPart_extentName macros first character member] at noPart
      contradiction
    have more : '[' ∉ extentName options first ++ [']'] :=
      List.not_mem_append (outside _ (by decide)) (by decide)
    have text : extentsText options (first :: others) =
        '[' :: (extentName options first ++ ']' :: extentsText options others) := by
      rw [extentsText, List.flatMap_cons, toList_extent]
      simp only [extentsText, List.cons_append, List.append_assoc, List.nil_append]
    have after := brackets_append more (extentsText options others)
    rw [List.append_assoc, List.singleton_append] at after
    rw [text, brackets, if_pos rfl, takeWhile_ne (outside _ (by decide)), after, ih, List.map_cons]

/-- A word is not all digits. -/
theorem all_isDigit_of_isWord (word : isWord text) : text.all Char.isDigit = false := by
  cases text with
  | nil => contradiction
  | cons first rest =>
    rw [isWord, Bool.and_eq_true] at word
    have noDigit := (Bool.or_eq_false_iff.1 (Text.not_isDigit_of_isWordStart word.1)).1
    rw [List.all_cons, noDigit, Bool.false_and]

/-- Whether names are defined as the numbers of state symbols and of observations. -/
structure Defines (options : HeaderOptions) (states observations : Nat)
    (defined : List (String × Nat)) : Prop extends HasMacros options where
  states : defined.lookup options.stateMacro = some states
  observations : defined.lookup options.observationMacro = some observations

variable {states observations : Nat} {defined : List (String × Nat)}

/-- The number that the name of an extent stands for. -/
theorem extent?_extentName (defines : Defines options states observations defined)
    (extent : Extent) :
    extent? defined (extentName options extent) = some (extent.value states observations) := by
  cases extent with
  | state =>
    rw [extentName, extent?, all_isDigit_of_isWord defines.state, if_neg Bool.false_ne_true,
      String.ofList_toList, defines.states, Extent.value]
  | observation =>
    rw [extentName, extent?, all_isDigit_of_isWord defines.observation, if_neg Bool.false_ne_true,
      String.ofList_toList, defines.observations, Extent.value]
  | fixed size =>
    have digits : (Nat.toDigits 10 size).all Char.isDigit :=
      List.all_eq_true.2 Number.isDigit_of_mem_toDigits
    rw [extentName, extent?, if_pos digits, Nat.ofDigitChars_ten_toDigits, Extent.value]

/-- The extents of an argument. -/
theorem mapM_brackets_text (defines : Defines options states observations defined)
    {argument : Argument} (declares : DeclaresWord argument) :
    (brackets (argument.text options).toList).mapM (extent? defined) =
      some (argument.extents.map (Extent.value states observations)) := by
  have plain : '[' ∉ argument.cType.toList ++ ' ' :: argument.name.toList := by
    refine List.not_mem_append ?_ (List.not_mem_cons_of_ne_of_not_mem (by decide)
      (notMem_of_isWord declares.word (by decide)))
    rcases declares.double with double | double
    · rw [double]
      decide
    · rw [double]
      decide
  have text : (argument.text options).toList =
      (argument.cType.toList ++ ' ' :: argument.name.toList) ++
        extentsText options argument.extents := by
    rw [toList_text, List.append_assoc, List.cons_append]
  rw [text, brackets_append plain, brackets_extentsText defines.toHasMacros, List.mapM_map]
  exact mapM_eq_some fun extent _ => extent?_extentName defines extent

end Extents

section Calls

/-- A word does not start with a blank. -/
theorem dropWhile_of_isWord (word : isWord text) (rest : List Char) :
    (text ++ rest).dropWhile (· == ' ') = text ++ rest := by
  cases text with
  | nil => contradiction
  | cons first others =>
    have part := isWordPart_of_isWord word first List.mem_cons_self
    have noBlank : ¬(first == ' ') = true := by
      intro blank
      rw [beq_iff_eq.1 blank] at part
      exact absurd part (by decide)
    exact List.dropWhile_cons_of_neg noBlank

/-- The characters of the size that a call asks for. -/
theorem toList_sizeof (name : String) :
    ("sizeof(" ++ name ++ ")").toList = "sizeof".toList ++ '(' :: (name.toList ++ [')']) := by
  have opening : "sizeof(".toList = "sizeof".toList ++ ['('] := rfl
  have closing : ")".toList = [')'] := rfl
  simp only [String.toList_append, opening, closing, List.append_assoc, List.cons_append,
    List.nil_append]

/-- The line that copies an array calls for it. -/
theorem copy?_copyText (word : isWord output.name.toList) :
    copy? (copyText output) = some (copyCall output.name) := by
  have isSizeof : isWord "sizeof".toList := by decide
  have text : copyText output =
      copyStart ++ ((separator.intercalate (copyCall output.name)).toList ++ [')', ';']) := by
    have measured : ", sizeof(".toList = ", ".toList ++ "sizeof(".toList := rfl
    have closing : "));".toList = ")".toList ++ [')', ';'] := rfl
    have start : "    memcpy(".toList = copyStart := rfl
    unfold copyText copyCall separator outputName
    simp only [String.intercalate_cons_cons, String.intercalate_singleton, String.toList_append,
      measured, closing, start, List.append_assoc]
  have isStart : copyStart.isPrefixOf (copyText output) = true :=
    List.isPrefixOf_iff_prefix.2 (text ▸ List.prefix_append _ _)
  have balanced : ∀ text ∈ copyCall output.name, Balanced text.toList := by
    simp only [copyCall, List.forall_mem_cons, toList_sizeof]
    exact ⟨balanced_word (isWord_outputName word), balanced_word word,
      (balanced_word isSizeof).append (balanced_word word).inside.enclosed, List.forall_mem_nil _⟩
  have start : ∀ text ∈ copyCall output.name, text.toList.dropWhile (· == ' ') = text.toList := by
    have alone : ∀ {text : List Char}, isWord text → text.dropWhile (· == ' ') = text := by
      intro text word
      have dropped := dropWhile_of_isWord word []
      rwa [List.append_nil] at dropped
    simp only [copyCall, List.forall_mem_cons, toList_sizeof]
    exact ⟨alone (isWord_outputName word), alone word, dropWhile_of_isWord isSizeof _,
      List.forall_mem_nil _⟩
  have inner : ∀ call : List Char,
      (((call ++ [')', ';']).reverse.dropWhile (· != ')')).drop 1).reverse = call := by
    exact reverse_dropWhile_ne (by decide)
  have present : copyCall output.name ≠ [] := List.cons_ne_nil _ _
  rw [copy?, if_pos isStart, text, List.drop_left]
  simp only [inner]
  rw [map_pieces present balanced start]

/-- The line that declares an array calls for no copy. -/
theorem copy?_declarationText (naming : Naming) (output : OutputArray) :
    copy? (declarationText naming output) = none := by
  obtain ⟨rest, _, text⟩ := exists_declaration naming output.name output.array
  have other : copyStart.isPrefixOf (declarationText naming output) = false := by
    rw [declarationText, text]
    exact not_isPrefixOf_append (by decide) (by decide) _
  rw [copy?, other, if_neg Bool.false_ne_true]

/-- The calls in the body of a function. -/
theorem copies_text (distinct : layout.state.Nodup)
    (declarable : ∀ output ∈ layout.outputs, Declarable layout.state output)
    (guarded : '\n' ∉ layout.guard.toList) :
    copies layout.text = layout.copiedOutputs.map fun output => copyCall output.name := by
  have declared : (layout.outputs.map (declarationText layout.naming)).filterMap copy? = [] := by
    rw [List.filterMap_map, List.filterMap_eq_nil_iff]
    exact fun output _ => copy?_declarationText layout.naming output
  have called : (layout.copiedOutputs.map copyText).filterMap copy? =
      layout.copiedOutputs.map fun output => copyCall output.name := by
    rw [List.filterMap_map, ← List.filterMap_eq_map]
    exact List.filterMap_congr fun output member =>
      copy?_copyText (declarable output (List.mem_of_mem_filter member)).word
  have blank : copy? [] = none := rfl
  rw [copies, bodyLines_text distinct declarable guarded, functionLines, List.filterMap_append,
    declared, List.filterMap_cons, blank, called, List.nil_append]

end Calls

section Declared

/-- The first brackets of the line that declares an array hold its size. -/
theorem head?_subscripts (word : isWord output.name.toList) (naming : Naming) :
    (subscripts (declarationText naming output)).head? = some (max output.array.size 1) := by
  obtain ⟨rest, _, text⟩ := exists_declaration naming output.name output.array
  have outside : '[' ∉ declarationStart ++ output.name.toList :=
    List.not_mem_append (by decide) (notMem_of_isWord word (by decide))
  have plain : Subscripted (declarationStart ++ output.name.toList) [] :=
    subscripted_plain fun character member same => outside (same ▸ member)
  have start : sizeText (max output.array.size 1) =
      Nat.toDigits 10 (max output.array.size 1) ++ ']' :: " = ".toList := rfl
  have entry := (plain.append (subscripted_entry (max output.array.size 1)))
    (" = ".toList ++ '\x7b' :: (initializer naming output.array ++ '\x7d' :: rest))
  have whole : declarationText naming output = declarationStart ++ output.name.toList ++
      '[' :: (Nat.toDigits 10 (max output.array.size 1) ++ [']']) ++
        (" = ".toList ++ '\x7b' :: (initializer naming output.array ++ '\x7d' :: rest)) := by
    rw [declarationText, text, start]
    simp only [List.append_assoc, List.cons_append, List.nil_append]
  rw [whole, entry]
  rfl

/-- What the line that declares an array declares. -/
theorem declared?_declarationText (declarable : Declarable state output) (distinct : state.Nodup) :
    declared? (declarationText (stateNaming "x" state) output) =
      some ⟨output.name, max output.array.size 1, max output.array.size 1⟩ := by
  rw [declared?, (declarable.declaration? distinct).2, Option.bind_some,
    head?_subscripts declarable.word, Option.map_some,
    declarable.length_pieces distinct]

/-- The declarations in the body of a function. -/
theorem declarations_text (distinct : layout.state.Nodup)
    (declarable : ∀ output ∈ layout.outputs, Declarable layout.state output)
    (guarded : '\n' ∉ layout.guard.toList) :
    declarations layout.text = layout.outputs.map fun output =>
      ⟨output.name, max output.array.size 1, max output.array.size 1⟩ := by
  have declared : (layout.outputs.map (declarationText layout.naming)).filterMap declared? =
      layout.outputs.map fun output =>
        ⟨output.name, max output.array.size 1, max output.array.size 1⟩ := by
    rw [List.filterMap_map, ← List.filterMap_eq_map]
    exact List.filterMap_congr fun output member =>
      declared?_declarationText (declarable output member) distinct
  have copied : (layout.copiedOutputs.map copyText).filterMap declared? = [] := by
    rw [List.filterMap_map, List.filterMap_eq_nil_iff]
    intro output member
    have word := (declarable output (List.mem_of_mem_filter member)).word
    rw [Function.comp_apply, declared?, (copyText_spec word).2, Option.bind_none]
  have blank : declared? [] = none := rfl
  rw [declarations, bodyLines_text distinct declarable guarded, functionLines,
    List.filterMap_append, declared, List.filterMap_cons, blank, copied, List.append_nil]

end Declared

end Reader

section Room

variable {states observations : Nat}

/-- An extent with a macro is the number of that macro, and one in place of zero. -/
theorem Extent.value_ofSize {macroExtent : Extent} {size : Nat}
    (known : macroExtent.value states observations = size) :
    (Extent.ofSize macroExtent size).value states observations = max size 1 := by
  unfold Extent.ofSize
  split
  · rename_i empty
    rw [empty]
    rfl
  · rename_i present
    rw [known, max_eq_left (Nat.one_le_iff_ne_zero.2 present)]

/-- Whether the parameter of an array has room for one element at least, and for exactly
its elements where it has any. -/
structure OutputArray.HasRoom (states observations : Nat) (output : OutputArray) : Prop where
  positive : ∀ extent ∈ output.extents, 1 ≤ extent.value states observations
  filled : 0 < output.array.size →
    (output.extents.map (Extent.value states observations)).prod = output.array.size

/-- A parameter has room where its extents are the dimensions of its array, and one in place
of zero. -/
theorem OutputArray.hasRoom_of_dimensions {output : OutputArray} {dimensions : List Nat}
    (extents : output.extents.map (Extent.value states observations) = dimensions.map (max · 1))
    (size : output.array.size = dimensions.prod) : output.HasRoom states observations where
  positive extent member := by
    have listed := List.mem_map_of_mem (f := Extent.value states observations) member
    rw [extents] at listed
    obtain ⟨dimension, _, same⟩ := List.mem_map.1 listed
    exact same ▸ le_max_right dimension 1
  filled present := by
    have positive : ∀ dimension ∈ dimensions, max dimension 1 = id dimension := by
      intro dimension member
      refine max_eq_left (Nat.one_le_iff_ne_zero.2 fun zero => ?_)
      rw [size, List.prod_eq_zero (zero ▸ member)] at present
      exact absurd present (Nat.lt_irrefl 0)
    rw [extents, List.map_congr_left positive, List.map_id, size]

/-- The parameters of the function have room for its arrays where the Jacobians have a row
for each output and a column for each symbol of the state. -/
theorem HeaderSpec.hasRoom_outputs {spec : HeaderSpec}
    {transitionJacobian observationJacobian : Grid (Expr Float)}
    (sized : spec.state.length = states) (observed : spec.observation.length = observations)
    (fitting : spec.transition.length = states)
    (shaped : transitionJacobian.shape = (states, states))
    (shaped' : observationJacobian.shape = (observations, states)) :
    ∀ output ∈ spec.outputs transitionJacobian observationJacobian,
      output.HasRoom states observations := by
  obtain rfl := sized
  obtain rfl := observed
  have stateExtent : (Extent.ofSize .state spec.state.length).value spec.state.length
      spec.observation.length = max spec.state.length 1 := Extent.value_ofSize rfl
  have observationExtent : (Extent.ofSize .observation spec.observation.length).value
      spec.state.length spec.observation.length = max spec.observation.length 1 :=
    Extent.value_ofSize rfl
  have size := transitionJacobian.length_rowMajor
  have size' := observationJacobian.length_rowMajor
  rw [shaped] at size
  rw [shaped'] at size'
  simp only [outputs, List.forall_mem_append, List.forall_mem_cons, List.forall_mem_map]
  refine ⟨⟨?transition, ?transitionJacobian, ?observation, ?observationJacobian,
    List.forall_mem_nil _⟩, fun entry _ => ?post⟩
  case transition =>
    refine @OutputArray.hasRoom_of_dimensions _ _ _ [spec.state.length] ?_ ?_
    · rw [List.map_singleton, stateExtent, List.map_singleton]
    · rw [List.prod_singleton, ← fitting]
      rfl
  case transitionJacobian =>
    refine @OutputArray.hasRoom_of_dimensions _ _ _ [spec.state.length, spec.state.length] ?_ ?_
    · simp only [List.map_cons, List.map_nil, stateExtent]
    · rw [List.prod_cons, List.prod_singleton]
      exact size
  case observation =>
    refine @OutputArray.hasRoom_of_dimensions _ _ _ [spec.observation.length] ?_ ?_
    · rw [List.map_singleton, observationExtent, List.map_singleton]
    · rw [List.prod_singleton]
      rfl
  case observationJacobian =>
    refine @OutputArray.hasRoom_of_dimensions _ _ _
      [spec.observation.length, spec.state.length] ?_ ?_
    · simp only [List.map_cons, List.map_nil, stateExtent, observationExtent]
    · rw [List.prod_cons, List.prod_singleton]
      exact size'
  case post =>
    refine @OutputArray.hasRoom_of_dimensions _ _ _ [entry.2.size] rfl ?_
    rw [List.prod_singleton]
    rfl

end Room

namespace MeantArray

/-- Whether a header has one parameter and one declaration for a meant array, with the given
extents and size, and one copy that fills the parameter where there is anything to copy. -/
structure Fills (meant : MeantArray) (text : String) (extents : List Nat)
    (declared : Reader.Declared) : Prop where
  parameter : ((Reader.arguments text).filter fun argument =>
    Reader.argumentName argument == meant.name ++ "_out").map (Reader.extents? text) =
      [some extents]
  positive : ∀ extent ∈ extents, 1 ≤ extent
  declaration : ((Reader.declarations text).filter fun declared => declared.name == meant.name) =
    [declared]
  copied : ((Reader.copies text).filter fun call => call[1]? == some meant.name) =
    if 0 < meant.size then [copyCall meant.name] else []
  filled : 0 < meant.size →
    declared.size = meant.size ∧ declared.listed = meant.size ∧ extents.prod = meant.size

end MeantArray

namespace HeaderSpec

variable {spec : HeaderSpec} {options : HeaderOptions} {fileName : String}
  {layout : HeaderLayout} {header : GeneratedHeader} {substitution : Substitution Float}
  {state : List String}

/-- The dimension macros of a description whose names are claimed differ. -/
theorem macros_ne_of_claim {guard : String} {arrays parameters : List String}
    (claimed : DeclaredName.claim reservedNames
      (DeclaredName.all options guard arrays parameters) = .ok ()) :
    options.stateMacro ≠ options.observationMacro := by
  obtain ⟨_, distinct, _⟩ := DeclaredName.claim_eq_ok.1 claimed
  rw [DeclaredName.all, List.append_assoc, List.map_append] at distinct
  have macros := (List.nodup_cons.1 (List.nodup_append.1 distinct).1).2
  exact fun same => (List.nodup_cons.1 macros).1 (same ▸ List.mem_cons_self)

/-- The library header is included on one line where the options pass their check. -/
theorem include_of_check (checked : options.check = .ok ()) :
    '\n' ∉ options.libraryInclude.toList := by
  obtain ⟨_, _, _, _, includable⟩ := HeaderOptions.check_eq_ok.1 checked
  intro member
  have characters := List.all_eq_true.1 (Bool.and_eq_true_iff.1 includable).2 _ member
  exact absurd characters (by decide)

/-- A header defines the dimension macros last, where the options pass their check. -/
theorem defines_of_layout (checked : options.check = .ok ())
    (laidOut : spec.layout options fileName = .ok layout) :
    Reader.Defines layout.options layout.state.length layout.observationCount
      (Reader.definitions layout.text) := by
  have callable := callable_of_layout checked laidOut
  have same : layout.options = options ∧
      layout.options.stateMacro ≠ layout.options.observationMacro := by
    obtain ⟨state, _, claimed, rfl⟩ := layout_eq_ok.1 laidOut
    exact ⟨rfl, macros_ne_of_claim claimed⟩
  obtain ⟨options, different⟩ := same
  obtain ⟨earlier, definitions⟩ := Reader.exists_definitions_text (state_of_layout laidOut).2
    (declarable_of_layout laidOut) (guard_of_layout checked laidOut) callable
    (options ▸ include_of_check checked)
  rw [definitions]
  exact {
    toHasMacros := callable.toHasMacros
    states := by rw [NameMap.lookup_cons_eq, if_neg different, NameMap.lookup_cons_eq, if_pos rfl]
    observations := by rw [NameMap.lookup_cons_eq, if_pos rfl] }

/-- The names and sizes of the meant arrays are those of the arrays of the function. -/
theorem map_label_arrays (fitting : spec.checkDimensions = .ok ())
    (resolved : Substitution.ofConstants spec.constants = .ok substitution)
    (symbols : spec.state.map substitution.apply = state.map .symbol) :
    ((spec.meantArrays state).map fun meant => (meant.name, meant.size)) =
      ((spec.substituted substitution).arrays state).map fun output =>
        (output.name, output.array.size) := by
  rw [← List.forall₂_eq_eq_eq, List.forall₂_map_left_iff, List.forall₂_map_right_iff]
  refine (forall₂_isGiven fitting resolved symbols).imp fun meant output given => ?_
  exact Prod.ext given.name.symm given.size.symm

/-- There are as many elements of an array to copy as it has, where the dimensions pass their
check. -/
theorem size_arrays (fitting : spec.checkDimensions = .ok ())
    (resolved : Substitution.ofConstants spec.constants = .ok substitution)
    (symbols : spec.state.map substitution.apply = state.map .symbol) :
    ∀ output ∈ (spec.substituted substitution).arrays state, output.size = output.array.size := by
  have given := forall₂_isGiven fitting resolved symbols
  have copied : (spec.meantArrays state).map MeantArray.size =
      ((spec.substituted substitution).arrays state).map OutputArray.size := by
    rw [← List.forall₂_eq_eq_eq, List.forall₂_map_left_iff, List.forall₂_map_right_iff]
    exact given.imp fun meant output given => given.copied.symm
  have sized := congrArg (List.map Prod.snd) (map_label_arrays fitting resolved symbols)
  rw [List.map_map, List.map_map] at sized
  exact List.map_inj_left.1 (copied.symm.trans sized)

/-- The parameters of the function have room for its arrays where the dimensions pass their
check. -/
theorem hasRoom_arrays (fitting : spec.checkDimensions = .ok ())
    (symbols : spec.state.map substitution.apply = state.map .symbol) :
    ∀ output ∈ (spec.substituted substitution).arrays state,
      output.HasRoom state.length spec.observation.length := by
  obtain ⟨length, shaped, shaped'⟩ := checkDimensions_eq_ok.1 fitting
  have sized : (spec.substituted substitution).state.length = state.length :=
    (congrArg List.length symbols).trans (List.length_map _)
  have size : spec.state.length = state.length := (List.length_map _).symm.trans sized
  rw [size] at length shaped shaped'
  refine hasRoom_outputs sized (List.length_map _) ((List.length_map _).trans length) ?_
    (shape_jacobianBy shaped')
  exact (shape_jacobianBy (length.symm ▸ shaped)).trans (by rw [length])

/-- The names of the arrays of a layout differ. -/
theorem nodup_outputs_of_layout (laidOut : spec.layout options fileName = .ok layout) :
    (layout.outputs.map OutputArray.name).Nodup := by
  have distinct := nodup_arguments_of_layout laidOut
  rw [HeaderLayout.map_name_arguments] at distinct
  have copied := (List.nodup_cons.1 (List.nodup_append.1 distinct).1).2
  refine List.Nodup.of_map outputName ?_
  rwa [List.map_map]

/-- An array is copied once where it has elements to copy. -/
theorem filter_copiedOutputs (different : (layout.outputs.map OutputArray.name).Nodup)
    {output : OutputArray} (member : output ∈ layout.outputs) :
    (layout.copiedOutputs.filter fun other => other.name == output.name) =
      if 0 < output.size then [output] else [] := by
  rw [HeaderLayout.copiedOutputs, List.filter_comm, Reader.filter_eq_singleton different member,
    List.filter_singleton]
  simp only [Bool.cond_decide]

/-- A layout has as many observations as the description. -/
theorem observationCount_of_layout (laidOut : spec.layout options fileName = .ok layout) :
    layout.observationCount = spec.observation.length := by
  obtain ⟨state, _, _, rfl⟩ := layout_eq_ok.1 laidOut
  rfl

/-- A header fills the parameter of each array that has room for it. -/
theorem fills_of_layout (checked : options.check = .ok ())
    (laidOut : spec.layout options fileName = .ok layout) {output : OutputArray}
    (member : output ∈ layout.outputs)
    (room : output.HasRoom layout.state.length layout.observationCount)
    (counted : output.size = output.array.size) {meant : MeantArray}
    (named : meant.name = output.name) (sized : meant.size = output.array.size) :
    meant.Fills layout.text
      (output.extents.map (Extent.value layout.state.length layout.observationCount))
      ⟨output.name, max output.array.size 1, max output.array.size 1⟩ := by
  obtain ⟨_, distinct⟩ := state_of_layout laidOut
  have declarable := declarable_of_layout laidOut
  have guarded := guard_of_layout checked laidOut
  have callable := callable_of_layout checked laidOut
  have different := nodup_outputs_of_layout laidOut
  have listed : (⟨"double", outputName output.name, output.extents⟩ : Argument) ∈
      layout.arguments := by
    refine List.mem_append_left _ (List.mem_cons_of_mem _ ?_)
    exact List.mem_map.2 ⟨output, member, rfl⟩
  constructor
  case parameter =>
    have copiedTo : output.name ++ "_out" = outputName output.name := rfl
    rw [Reader.arguments_text distinct declarable guarded callable, named, copiedTo,
      Reader.filter_signature_of_mem callable (nodup_arguments_of_layout laidOut) listed,
      List.map_singleton]
    refine congrArg (fun extents => [extents]) ?_
    exact Reader.mapM_brackets_text (defines_of_layout checked laidOut)
      (Reader.declaresWord_arguments callable _ listed)
  case positive => exact List.forall_mem_map.2 room.positive
  case declaration =>
    rw [Reader.declarations_text distinct declarable guarded, List.filter_map, named]
    exact congrArg _ (Reader.filter_eq_singleton different member)
  case copied =>
    rw [Reader.copies_text distinct declarable guarded, List.filter_map, named, sized, ← counted]
    refine (congrArg _ (filter_copiedOutputs different member)).trans ?_
    rw [apply_ite (List.map _), List.map_singleton, List.map_nil]
  case filled =>
    intro present
    rw [sized] at present ⊢
    have least := max_eq_left (Nat.one_le_iff_ne_zero.2 (Nat.pos_iff_ne_zero.1 present))
    exact ⟨least, least, room.filled present⟩

/-- The calls for copies are those of the meant arrays with elements. -/
theorem copies_of_layout (fitting : spec.checkDimensions = .ok ())
    (resolved : Substitution.ofConstants spec.constants = .ok substitution)
    (checked : options.check = .ok ())
    (laidOut : (spec.substituted substitution).layout options fileName = .ok layout) :
    Reader.copies layout.text =
      ((spec.meantArrays layout.state).filter fun meant => 0 < meant.size).map
        fun meant => copyCall meant.name := by
  obtain ⟨symbols, distinct⟩ := state_of_layout laidOut
  have called := congrArg (fun labels : List (String × Nat) =>
    (labels.filter fun label => 0 < label.2).map fun label => copyCall label.1)
    (map_label_arrays fitting resolved symbols)
  simp only [List.filter_map, List.map_map, ← outputs_of_layout laidOut] at called
  have counted := size_arrays fitting resolved symbols
  rw [← outputs_of_layout laidOut] at counted
  have positive : layout.copiedOutputs = layout.outputs.filter fun output =>
      0 < output.array.size :=
    List.filter_congr fun output member => by rw [counted output member]
  rw [Reader.copies_text distinct (declarable_of_layout laidOut) (guard_of_layout checked laidOut),
    positive]
  exact called.symm

/-- Every copy in a composed header fills its parameter. The copies are those of the meant
arrays with elements, in their order. -/
theorem copies_fill_of_compose (composed : spec.compose options fileName = .ok header) :
    ∃ state, List.Forall₂ (fun expr name => spec.constants.Expands expr (.symbol name))
        spec.state state ∧
      Reader.copies header.text =
        ((spec.meantArrays state).filter fun meant => 0 < meant.size).map
          (fun meant => copyCall meant.name) ∧
      ∀ meant ∈ spec.meantArrays state,
        ∃ extents declared, meant.Fills header.text extents declared := by
  obtain ⟨checked, fitting, substitution, layout, resolved, laidOut, rfl⟩ :=
    compose_eq_ok.1 composed
  obtain ⟨symbols, _⟩ := state_of_layout laidOut
  refine ⟨layout.state, (forall₂_expands_iff resolved).2 symbols,
    copies_of_layout fitting resolved checked laidOut, fun meant listed => ?_⟩
  have label := List.mem_map_of_mem (f := fun meant : MeantArray => (meant.name, meant.size)) listed
  rw [map_label_arrays fitting resolved symbols, ← outputs_of_layout laidOut] at label
  obtain ⟨output, member, same⟩ := List.mem_map.1 label
  obtain ⟨named, sized⟩ := Prod.mk.inj same
  have listed' := outputs_of_layout laidOut ▸ member
  have room := hasRoom_arrays fitting symbols output listed'
  have observations : layout.observationCount = spec.observation.length :=
    (observationCount_of_layout laidOut).trans (List.length_map _)
  rw [← observations] at room
  exact ⟨_, _, fills_of_layout checked laidOut member room
    (size_arrays fitting resolved symbols output listed') named.symm sized.symm⟩

/-- The header of uniform motion copies five arrays of six, since one has no elements. -/
theorem copies_fill_of_compose_of_uniformMotion :
    ∃ header, uniformMotion.compose .standard "model.h" = .ok header ∧
      Reader.copies header.text = ["fx", "F", "hx", "H", "q"].map copyCall ∧
      ∀ meant ∈ uniformMotion.meantArrays ["p", "v"],
        ∃ extents declared, meant.Fills header.text extents declared := by
  obtain ⟨header, composed⟩ := exists_compose_uniformMotion
  obtain ⟨state, symbols, copies, fills⟩ := copies_fill_of_compose composed
  obtain rfl := eq_of_forall₂_uniformMotion symbols
  exact ⟨_, composed, copies, fills⟩

end HeaderSpec

end KalmanHeader
