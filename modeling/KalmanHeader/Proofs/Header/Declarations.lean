import KalmanHeader.Header.Layout
import KalmanHeader.Proofs.Header.Elements
import KalmanHeader.Proofs.Header.Lines
import KalmanHeader.Proofs.Results

/-!
# The declarations of a function

Each array is declared on a line of its own, and no character of an element can end
that line or the initializer on it. So the reader finds the arrays of a layout in
order, with their elements.
-/

namespace KalmanHeader

/-- The elements that the declaration of an array lists: a single zero in place of
none. -/
def ExprArray.written (array : ExprArray Float) : List (Expr Float) :=
  if array.size = 0 then [.literal 0.0] else array.rowMajor

/-- A declaration lists at least one element. -/
theorem ExprArray.written_ne_nil (array : ExprArray Float) : array.written ≠ [] := by
  unfold ExprArray.written
  split
  · exact List.cons_ne_nil _ _
  · rename_i present
    exact fun empty => present (by rw [ExprArray.size, empty]; rfl)

/-- A declaration lists one element for each of the array, and at least one. -/
theorem ExprArray.length_written (array : ExprArray Float) :
    array.written.length = max array.size 1 := by
  unfold ExprArray.written
  split
  · rename_i empty
    rw [empty]
    rfl
  · rename_i present
    rw [max_eq_left (Nat.one_le_iff_ne_zero.2 present), ExprArray.size]

namespace Reader

open C

section Characters

variable {state : List String} {name : String}

/-- Whether a character may stand within an initializer. -/
def IsInner (character : Char) : Prop :=
  character ≠ '\n' ∧ character ≠ '\x7d'

instance (character : Char) : Decidable (IsInner character) :=
  inferInstanceAs (Decidable (_ ∧ _))

/-- The characters of words are inner. -/
theorem isInner_of_isWordPart {character : Char} (part : Text.isWordPart character) :
    IsInner character := by
  constructor <;> rintro rfl <;> exact absurd part (by decide)

/-- The characters of a readable symbol are those of words and brackets. -/
theorem forall_mem_symbol {allowed : Char → Prop} (distinct : state.Nodup)
    (readable : Readable state name) (words : ∀ character, Text.isWordPart character → allowed character)
    (opening : allowed '[') (closing : allowed ']') :
    ∀ character ∈ (stateNaming "x" state name).toList, allowed character := by
  by_cases member : name ∈ state
  · rw [stateNaming_of_getElem? distinct (getElem?_idxOf_of_mem member), toList_entryText]
    simp only [List.forall_mem_append, List.forall_mem_cons]
    refine ⟨List.forall_mem_singleton.2 (words _ (by decide)), opening, fun character digit => ?_,
      closing, List.forall_mem_nil _⟩
    exact words _ (Text.isWordPart_of_isDigit (Number.isDigit_of_mem_toDigits character digit))
  · rw [stateNaming_of_notMem member]
    intro character found
    exact words _ (isWordPart_of_isWord (readable.resolve_left member).1 character found)

/-- The text of a readable symbol is inner. -/
theorem isInner_symbol (distinct : state.Nodup) (readable : Readable state name) :
    ∀ character ∈ (stateNaming "x" state name).toList, IsInner character :=
  forall_mem_symbol distinct readable (fun _ => isInner_of_isWordPart) (by decide) (by decide)

/-- The text of a readable symbol is balanced. -/
theorem balanced_symbol (distinct : state.Nodup) (readable : Readable state name) :
    Balanced (stateNaming "x" state name).toList :=
  balanced_plain (forall_mem_symbol distinct readable (fun _ => plain_of_isWordPart) (by decide)
    (by decide))

/-- The text of an expression with readable symbols is inner. -/
theorem isInner_expression {expr : Expr Float} (distinct : state.Nodup)
    (readable : ∀ name, expr.contains name → Readable state name) :
    ∀ character ∈ (expression (stateNaming "x" state) expr).toList, IsInner character :=
  forall_mem_expression (fun _ => isInner_of_isWordPart) (by simp [marks, IsInner])
    fun name found => isInner_symbol distinct (readable name found)

/-- The characters of texts with separators between them. -/
theorem forall_mem_intercalate {allowed : Char → Prop} {texts : List String} (comma : allowed ',')
    (blank : allowed ' ') (inner : ∀ text ∈ texts, ∀ character ∈ text.toList, allowed character) :
    ∀ character ∈ (separator.intercalate texts).toList, allowed character := by
  induction texts with
  | nil => exact List.forall_mem_nil _
  | cons first others ih =>
    obtain ⟨head, tail⟩ := List.forall_mem_cons.1 inner
    cases others with
    | nil =>
      rw [String.intercalate_singleton]
      exact head
    | cons second others =>
      have between : ∀ character ∈ separator.toList, allowed character :=
        List.forall_mem_cons.2 ⟨comma, List.forall_mem_singleton.2 blank⟩
      rw [String.intercalate_cons_cons, String.toList_append, String.toList_append]
      simp only [List.forall_mem_append]
      exact ⟨⟨head, between⟩, ih tail⟩

end Characters

section Declarations

variable {state : List String} {naming : Naming}

/-- The initializer of an array. -/
def initializer (naming : Naming) (array : ExprArray Float) : List Char :=
  (separator.intercalate (array.written.map (expression naming))).toList

/-- The text of a number is its digits. -/
theorem toList_toString (count : Nat) : (toString count).toList = Nat.toDigits 10 count :=
  Nat.toList_repr

/-- What stands between the name of a declaration and its initializer, without the opening
bracket. -/
def sizeText (size : Nat) : List Char :=
  Nat.toDigits 10 size ++ "] = ".toList

/-- The size of a declaration is written with digits and a few marks. -/
theorem notMem_sizeText {character : Char} (noDigit : character.isDigit = false)
    (noMark : character ∉ "] = ".toList) (size : Nat) : character ∉ sizeText size := by
  refine List.not_mem_append (fun digit => ?_) noMark
  rw [Number.isDigit_of_mem_toDigits character digit] at noDigit
  contradiction

/-- The characters of the declaration of an array with elements. -/
theorem toList_declaration {array : ExprArray Float} (present : array.size ≠ 0) (naming : Naming)
    (name : String) :
    (declaration naming name array).toList =
      "const double ".toList ++ (name.toList ++ '[' :: (sizeText array.size ++
        '\x7b' :: (initializer naming array ++ "\x7d;".toList))) := by
  have opening : "] = \x7b".toList = "] = ".toList ++ ['\x7b'] := rfl
  have bracket : "[".toList = ['['] := rfl
  rw [declaration, initializer, ExprArray.written, if_neg present, if_neg present]
  simp only [String.toList_append, opening, bracket, toList_toString, sizeText,
    List.append_assoc, List.cons_append, List.nil_append]

/-- The characters of a line that declares an array. -/
theorem exists_declaration (naming : Naming) (name : String) (array : ExprArray Float) :
    ∃ rest, '\n' ∉ rest ∧ ("    " ++ declaration naming name array).toList =
      declarationStart ++ (name.toList ++ '[' :: (sizeText (max array.size 1) ++
        '\x7b' :: (initializer naming array ++ '\x7d' :: rest))) := by
  have digits : ∀ count : Nat, '\n' ∉ Nat.toDigits 10 count := fun count member =>
    absurd (Number.isDigit_of_mem_toDigits _ member) (by decide)
  have start : declarationStart = "    ".toList ++ "const double ".toList := rfl
  by_cases empty : array.size = 0
  -- An array without elements has a fixed initializer and its shape in a comment.
  · unfold declaration initializer ExprArray.written
    refine ⟨"; /* empty ".toList ++ Nat.toDigits 10 array.shape.1 ++ 'x' ::
        (Nat.toDigits 10 array.shape.2 ++ " */".toList), ?_, ?_⟩
    · simp only [List.mem_append, List.mem_cons, not_or]
      exact ⟨⟨by decide, digits _⟩, by decide, digits _, by decide⟩
    · have zero : (expression naming (.literal 0.0)).toList = "0.0".toList := rfl
      have opening : "[1] = \x7b0.0\x7d; /* empty ".toList =
          '[' :: (sizeText 1 ++ '\x7b' :: ("0.0".toList ++ '\x7d' :: "; /* empty ".toList)) := rfl
      have between : "x".toList = ['x'] := rfl
      have size : max array.size 1 = 1 := by omega
      rw [if_pos empty, if_pos empty, List.map_singleton, String.intercalate_singleton, zero, start,
        size]
      simp only [String.toList_append, opening, between, toList_toString, List.append_assoc,
        List.cons_append, List.nil_append]
  · refine ⟨";".toList, by decide, ?_⟩
    have closing : "\x7d;".toList = '\x7d' :: ";".toList := rfl
    have size : max array.size 1 = array.size := by omega
    rw [String.toList_append, toList_declaration empty, start, size, closing, List.append_assoc]

end Declarations

section Arrays

variable {state : List String} {output : OutputArray}

/-- Whether the declaration of an array is a line that declares it. -/
structure Declarable (state : List String) (output : OutputArray) : Prop where
  word : isWord output.name.toList
  readable : ∀ expr ∈ output.array.rowMajor, ∀ name, expr.contains name → Readable state name

/-- Whether an array can be read back from its declaration. -/
structure Legible (state : List String) (output : OutputArray) : Prop
    extends Declarable state output where
  finite : ∀ expr ∈ output.array.rowMajor, expr.HasFiniteLiterals

/-- The line that declares an array, without its end. -/
def declarationText (naming : Naming) (output : OutputArray) : List Char :=
  ("    " ++ declaration naming output.name output.array).toList

/-- The symbols of what is listed for an array are readable. -/
theorem Declarable.written (declarable : Declarable state output) :
    ∀ expr ∈ output.array.written, ∀ name, expr.contains name → Readable state name := by
  unfold ExprArray.written
  split
  · exact List.forall_mem_singleton.2 fun name found => absurd found Bool.false_ne_true
  · exact declarable.readable

/-- The literals of what is listed for a legible array are finite. -/
theorem Legible.finite_written (legible : Legible state output) :
    ∀ expr ∈ output.array.written, expr.HasFiniteLiterals := by
  unfold ExprArray.written
  split
  · exact List.forall_mem_singleton.2 (Expr.hasFiniteLiterals_literal.2 (by decide))
  · exact legible.finite

/-- The initializer of an array is inner. -/
theorem Declarable.isInner_initializer (declarable : Declarable state output)
    (distinct : state.Nodup) :
    ∀ character ∈ initializer (stateNaming "x" state) output.array, IsInner character := by
  refine forall_mem_intercalate (by decide) (by decide) fun text member => ?_
  obtain ⟨expr, listed, rfl⟩ := List.mem_map.1 member
  exact isInner_expression distinct (declarable.written expr listed)

/-- The declaration of an array is one line, on which its name and its initializer are
found. -/
theorem Declarable.declaration? (declarable : Declarable state output) (distinct : state.Nodup) :
    '\n' ∉ declarationText (stateNaming "x" state) output ∧
      declaration? (declarationText (stateNaming "x" state) output) =
        some (output.name, initializer (stateNaming "x" state) output.array) := by
  obtain ⟨rest, noEnd, text⟩ :=
    exists_declaration (stateNaming "x" state) output.name output.array
  have inner := declarable.isInner_initializer distinct
  rw [declarationText, text]
  constructor
  · simp only [List.mem_append, List.mem_cons, not_or]
    exact ⟨by decide, notMem_of_isWord declarable.word (by decide), by decide,
      notMem_sizeText (by decide) (by decide) _, by decide, fun member => (inner _ member).1 rfl,
      by decide, noEnd⟩
  · have named : '[' ∉ output.name.toList := notMem_of_isWord declarable.word (by decide)
    have noBrace : '\x7b' ∉ output.name.toList ++ '[' :: sizeText (max output.array.size 1) := by
      simp only [List.mem_append, List.mem_cons, not_or]
      exact ⟨notMem_of_isWord declarable.word (by decide), by decide,
        notMem_sizeText (by decide) (by decide) _⟩
    rw [declaration?_of named noBrace fun member => (inner _ member).2 rfl, String.ofList_toList]

/-- The elements that are listed for an array are balanced. -/
theorem Declarable.balanced (declarable : Declarable state output) (distinct : state.Nodup) :
    ∀ text ∈ output.array.written.map (expression (stateNaming "x" state)),
      Balanced text.toList := by
  rw [List.forall_mem_map]
  exact fun expr listed => balanced_expression fun name found =>
    balanced_symbol distinct (declarable.written expr listed name found)

/-- The pieces of the initializer of an array are the texts of what is listed for it, each but
the first after a blank. -/
theorem Declarable.exists_pieces (declarable : Declarable state output) (distinct : state.Nodup) :
    ∃ first others, output.array.written = first :: others ∧
      pieces 0 (initializer (stateNaming "x" state) output.array) =
        (expression (stateNaming "x" state) first).toList ::
          others.map fun expr => ' ' :: (expression (stateNaming "x" state) expr).toList := by
  have balanced := declarable.balanced distinct
  obtain ⟨first, others, written⟩ := List.exists_cons_of_ne_nil output.array.written_ne_nil
  rw [written, List.map_cons] at balanced
  refine ⟨first, others, written, ?_⟩
  rw [initializer, written, List.map_cons, pieces_intercalate balanced, List.map_map]
  rfl

/-- The initializer of an array has a piece for each element that is listed. -/
theorem Declarable.length_pieces (declarable : Declarable state output) (distinct : state.Nodup) :
    (pieces 0 (initializer (stateNaming "x" state) output.array)).length =
      max output.array.size 1 := by
  obtain ⟨first, others, written, listed⟩ := declarable.exists_pieces distinct
  rw [listed, ← output.array.length_written, written, List.length_cons, List.length_cons,
    List.length_map]

/-- The elements of the initializer of a legible array are read back. -/
theorem Legible.elements (legible : Legible state output) (distinct : state.Nodup) :
    (pieces 0 (initializer (stateNaming "x" state) output.array)).mapM (element? state) =
      some (output.array.written.map reread) := by
  have elements : ∀ expr ∈ output.array.written,
      element? state (expression (stateNaming "x" state) expr).toList = some (reread expr) ∧
        element? state (' ' :: (expression (stateNaming "x" state) expr).toList) =
          some (reread expr) := fun expr listed =>
    element?_expression distinct (legible.finite_written expr listed) (legible.written expr listed)
  obtain ⟨first, others, written, listed⟩ := legible.exists_pieces distinct
  rw [written] at elements
  obtain ⟨head, tail⟩ := List.forall_mem_cons.1 elements
  have rest : (others.map fun expr => ' ' :: (expression (stateNaming "x" state) expr).toList).mapM
      (element? state) = some (others.map reread) := by
    rw [List.mapM_map]
    exact mapM_eq_some fun expr listed => (tail expr listed).2
  rw [listed, written, List.mapM_cons, head.1, rest]
  rfl

end Arrays

section Layouts

variable {layout : HeaderLayout} {output : OutputArray}

/-- The line that copies an array, without its end. -/
def copyText (output : OutputArray) : List Char :=
  "    memcpy(".toList ++ (outputName output.name ++ ", " ++ output.name ++ ", sizeof(" ++
    output.name ++ "));").toList

/-- The lines between the braces of the function. -/
def functionLines (layout : HeaderLayout) : List (List Char) :=
  layout.outputs.map (declarationText layout.naming) ++ [] :: layout.copiedOutputs.map copyText

/-- The characters of a body. -/
theorem toList_body (layout : HeaderLayout) :
    layout.body.toList = terminated (functionLines layout) := by
  have ending : "\n".toList = ['\n'] := rfl
  have declared : ∀ output : OutputArray, (output.declarationLine layout.naming).toList =
      declarationText layout.naming output ++ ['\n'] := by
    intro output
    unfold OutputArray.declarationLine declarationText
    rw [String.toList_append, ending]
  have copied : ∀ output : OutputArray, output.copyLine.toList = copyText output ++ ['\n'] := by
    intro output
    have closing : "));\n".toList = "));".toList ++ ['\n'] := rfl
    unfold OutputArray.copyLine copyText
    simp only [String.toList_append, closing, List.append_assoc]
  unfold HeaderLayout.body terminated functionLines
  simp only [String.toList_append, String.toList_join, List.flatMap_map, List.flatMap_append,
    List.flatMap_cons, declared, copied, ending, List.append_assoc, List.nil_append]

/-- The line that the function starts with. -/
def headText (layout : HeaderLayout) : List Char :=
  ("static void " ++ layout.options.functionName ++ "(" ++
    separator.intercalate layout.signature ++ ")").toList

/-- The lines of a header from the opening brace on. -/
def closingLines (layout : HeaderLayout) : List (List Char) :=
  functionLines layout ++
    ['\x7d'] :: [[], "#endif /* ".toList ++ (layout.guard.toList ++ " */".toList)]

/-- The line that defines a macro as a number. -/
def definitionText (name : String) (value : Nat) : List Char :=
  ("#define " ++ name ++ " " ++ toString value).toList

/-- The lines of a header from the dimension macros up to the function. -/
def macroLines (layout : HeaderLayout) : List (List Char) :=
  [definitionText layout.options.stateMacro layout.state.length,
    definitionText layout.options.observationMacro layout.observationCount, [],
    ("#include \"" ++ layout.options.libraryInclude ++ "\"").toList, []]

/-- The characters of a header, line by line from the dimension macros on. -/
theorem exists_toList_text_macros (layout : HeaderLayout) :
    ∃ front, layout.text.toList = front ++ '\n' ::
      terminated (macroLines layout ++ headText layout :: ['\x7b'] :: closingLines layout) := by
  have split : ∃ start : String, layout.code = start ++
      "\n\n#include <math.h>\n#include <string.h>\n\n#define " ++ layout.options.stateMacro ++ " " ++
      toString layout.state.length ++ "\n#define " ++ layout.options.observationMacro ++ " " ++
      toString layout.observationCount ++ "\n\n#include \"" ++ layout.options.libraryInclude ++
      "\"\n\nstatic void " ++ layout.options.functionName ++ "(" ++
      separator.intercalate layout.signature ++ ")\n\x7b\n" ++ layout.body ++
      "\x7d\n\n#endif /* " ++ layout.guard ++ " */\n" := ⟨_, rfl⟩
  obtain ⟨start, code⟩ := split
  obtain ⟨includes, first⟩ : ∃ includes,
      "\n\n#include <math.h>\n#include <string.h>\n\n#define ".toList =
        includes ++ '\n' :: "#define ".toList :=
    ⟨"\n\n#include <math.h>\n#include <string.h>\n".toList, rfl⟩
  have second : "\n#define ".toList = '\n' :: "#define ".toList := rfl
  have including : "\n\n#include \"".toList = '\n' :: '\n' :: "#include \"".toList := rfl
  have before : "\"\n\nstatic void ".toList =
      "\"".toList ++ '\n' :: '\n' :: "static void ".toList := rfl
  have opening : ")\n\x7b\n".toList = ")".toList ++ '\n' :: ['\x7b', '\n'] := rfl
  have closing : "\x7d\n\n#endif /* ".toList = '\x7d' :: '\n' :: '\n' :: "#endif /* ".toList := rfl
  have ending : " */\n".toList = " */".toList ++ ['\n'] := rfl
  refine ⟨(layout.banner ++ "\n\n" ++ start).toList ++ includes, ?_⟩
  rw [HeaderLayout.text, code]
  simp only [String.toList_append, toList_body, first, second, including, before, opening, closing,
    ending, terminated, macroLines, definitionText, headText, closingLines, List.flatMap_cons,
    List.flatMap_append, List.flatMap_nil, List.append_assoc, List.cons_append, List.nil_append,
    List.append_nil]

/-- The characters of a header, line by line from the start of the function on. -/
theorem exists_toList_text (layout : HeaderLayout) :
    ∃ front, layout.text.toList =
      front ++ '\n' :: terminated (headText layout :: ['\x7b'] :: closingLines layout) := by
  obtain ⟨front, whole⟩ := exists_toList_text_macros layout
  obtain ⟨others, blank⟩ : ∃ others, macroLines layout = others ++ [[]] := ⟨_ :: _ :: _ :: [_], rfl⟩
  refine ⟨front ++ '\n' :: terminated others, ?_⟩
  rw [whole, blank]
  simp only [terminated, List.flatMap_cons, List.flatMap_append, List.append_assoc,
    List.cons_append, List.nil_append]

/-- A line that copies an array is one line and declares nothing. -/
theorem copyText_spec (word : isWord output.name.toList) :
    '\n' ∉ copyText output ∧ declaration? (copyText output) = none := by
  have named : '\n' ∉ output.name.toList := notMem_of_isWord word (by decide)
  constructor
  · unfold copyText outputName
    simp only [String.toList_append, List.mem_append, not_or]
    exact ⟨by decide, ⟨⟨⟨⟨⟨⟨named, by decide⟩, by decide⟩, named⟩, by decide⟩, named⟩, by decide⟩⟩
  · have start : declarationStart.isPrefixOf (copyText output) = false := by
      unfold copyText
      generalize (outputName output.name ++ _ ++ _ ++ _ ++ _ ++ _).toList = rest
      rfl
    unfold declaration?
    rw [start, if_neg Bool.false_ne_true]

/-- No line of a function starts with anything but a blank. -/
theorem head?_functionLines (layout : HeaderLayout) :
    ∀ line ∈ functionLines layout, ∀ character ∈ line.head?, character = ' ' := by
  simp only [functionLines, List.forall_mem_append, List.forall_mem_cons, List.forall_mem_map]
  refine ⟨fun output _ => ?_, nofun, fun output _ => ?_⟩
  · unfold declarationText
    rw [String.toList_append]
    rintro character ⟨⟩
    rfl
  · unfold copyText
    rintro character ⟨⟩
    rfl

/-- The lines of a header from the opening brace on are single lines, and none of them is
another opening brace. -/
theorem closingLines_spec (distinct : layout.state.Nodup)
    (declarable : ∀ output ∈ layout.outputs, Declarable layout.state output)
    (guarded : '\n' ∉ layout.guard.toList) :
    (∀ line ∈ closingLines layout, '\n' ∉ line) ∧ ['\x7b'] ∉ closingLines layout := by
  have copies : ∀ output ∈ layout.copiedOutputs, isWord output.name.toList := fun output member =>
    (declarable output (List.mem_of_mem_filter member)).word
  have guardLine : '\n' ∉ "#endif /* ".toList ++ (layout.guard.toList ++ " */".toList) := by
    simp only [List.mem_append, not_or]
    exact ⟨by decide, guarded, by decide⟩
  constructor
  · simp only [closingLines, functionLines, List.forall_mem_append, List.forall_mem_cons,
      List.forall_mem_map]
    exact ⟨⟨fun output member => ((declarable output member).declaration? distinct).1, by decide,
      fun output member => (copyText_spec (copies output member)).1⟩, by decide, by decide,
      guardLine, List.forall_mem_nil _⟩
  · rw [closingLines, List.mem_append, not_or]
    exact ⟨fun member => absurd (head?_functionLines layout _ member _ rfl) (by decide), by simp⟩

/-- The lines of the function of a layout. -/
theorem bodyLines_text (distinct : layout.state.Nodup)
    (declarable : ∀ output ∈ layout.outputs, Declarable layout.state output)
    (guarded : '\n' ∉ layout.guard.toList) : bodyLines layout.text = functionLines layout := by
  obtain ⟨front, whole⟩ := exists_toList_text layout
  obtain ⟨single, opening⟩ := closingLines_spec distinct declarable guarded
  obtain ⟨inner, after⟩ := List.forall_mem_append.1 single
  rw [closingLines, List.mem_append, not_or] at opening
  have whole : layout.text.toList = (front ++ '\n' :: headText layout) ++
      '\n' :: terminated (['\x7b'] :: closingLines layout) := by
    rw [whole, terminated, List.flatMap_cons]
    simp only [terminated, List.append_assoc, List.cons_append, List.nil_append]
  refine bodyLines_of whole inner (List.forall_mem_cons.1 after).2 opening.1
    (fun member => opening.2 (List.mem_cons_of_mem _ member)) ?_
  exact fun member => absurd (head?_functionLines layout _ member _ rfl) (by decide)

/-- The declarations of a layout. -/
theorem filterMap_functionLines (distinct : layout.state.Nodup)
    (declarable : ∀ output ∈ layout.outputs, Declarable layout.state output) :
    (functionLines layout).filterMap declaration? =
      layout.outputs.map fun output => (output.name, initializer layout.naming output.array) := by
  have declared : (layout.outputs.map (declarationText layout.naming)).filterMap declaration? =
      layout.outputs.map fun output => (output.name, initializer layout.naming output.array) := by
    rw [List.filterMap_map, ← List.filterMap_eq_map]
    exact List.filterMap_congr fun output member =>
      ((declarable output member).declaration? distinct).2
  have copied : (layout.copiedOutputs.map copyText).filterMap declaration? = [] := by
    rw [List.filterMap_map, List.filterMap_eq_nil_iff]
    exact fun output member =>
      (copyText_spec (declarable output (List.mem_of_mem_filter member)).word).2
  have blank : declaration? [] = none := rfl
  rw [functionLines, List.filterMap_append, declared, List.filterMap_cons, blank, copied,
    List.append_nil]

/-- The arrays of a layout with legible arrays are read back. -/
theorem arrays?_text (distinct : layout.state.Nodup)
    (legible : ∀ output ∈ layout.outputs, Legible layout.state output)
    (guarded : '\n' ∉ layout.guard.toList) :
    arrays? layout.state layout.text =
      some (layout.outputs.map fun output => (output.name, output.array.written.map reread)) := by
  have declarable : ∀ output ∈ layout.outputs, Declarable layout.state output :=
    fun output member => (legible output member).toDeclarable
  rw [arrays?, bodyLines_text distinct declarable guarded,
    filterMap_functionLines distinct declarable, List.mapM_map]
  refine mapM_eq_some fun output member => ?_
  have elements := (legible output member).elements distinct
  exact congrArg (Option.map fun elements => (output.name, elements)) elements

end Layouts

end Reader

end KalmanHeader
