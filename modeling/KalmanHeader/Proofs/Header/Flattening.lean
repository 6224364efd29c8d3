import KalmanHeader.Proofs.Expr.Grid
import KalmanHeader.Proofs.Expr.SymbolSets
import KalmanHeader.Proofs.Header.Declarations

/-!
# Reading a single declaration back

The initializer of a declaration stands after the last opening brace and its size in
the last brackets before that, so both are found from the end of the text whatever
the array is called. The commas outside parentheses then separate the elements row by
row, and none is lost or merged with its neighbour.
-/

namespace KalmanHeader.Reader

open C

section Search

variable {mark : Char} {back : List Char}

/-- What stands after the last `mark` of a text. -/
def afterLast (mark : Char) (text : List Char) : List Char :=
  (text.reverse.takeWhile (· != mark)).reverse

/-- What stands before the last `mark` of a text. -/
def beforeLast (mark : Char) (text : List Char) : List Char :=
  ((text.reverse.dropWhile (· != mark)).drop 1).reverse

/-- What stands after a mark that does not occur again. -/
theorem afterLast_of (absent : mark ∉ back) (front : List Char) :
    afterLast mark (front ++ mark :: back) = back :=
  reverse_takeWhile_ne absent front

/-- What stands before a mark that does not occur again. -/
theorem beforeLast_of (absent : mark ∉ back) (front : List Char) :
    beforeLast mark (front ++ mark :: back) = front :=
  reverse_dropWhile_ne absent front

end Search

/-- The size that a declaration gives: the number in the last brackets before the
initializer. -/
def declaredSize? (text : String) : Option Nat :=
  let digits := (afterLast '[' (beforeLast '\x7b' text.toList)).takeWhile (· != ']')
  if digits ≠ [] ∧ digits.all Char.isDigit then some (Nat.ofDigitChars 10 digits 0) else none

/-- A text without the blank that belongs to the separator in front of it. -/
def withoutBlank : List Char → List Char
  | ' ' :: rest => rest
  | text => text

/-- The elements that a declaration lists: the texts between the commas outside parentheses
of its initializer. -/
def listed (text : String) : List String :=
  match pieces 0 ((afterLast '\x7b' text.toList).takeWhile (· != '\x7d')) with
  | [] => []
  | first :: others =>
    String.ofList first :: others.map fun piece => String.ofList (withoutBlank piece)

/-- Whether a text has none of the marks that hold an initializer together. -/
def IsPlain (text : String) : Prop :=
  ∀ character ∈ text.toList, character ∉ [',', '(', ')', '\x7b', '\x7d']

instance (text : String) : Decidable (IsPlain text) :=
  List.decidableBAll _ _

/-- Whether the texts of the symbols of an expression are plain. -/
def HasPlainSymbols (naming : Naming) (expr : Expr Float) : Prop :=
  ∀ name, expr.contains name → IsPlain (naming name)

instance (naming : Naming) (expr : Expr Float) : Decidable (HasPlainSymbols naming expr) :=
  decidable_of_iff (∀ name ∈ expr.symbols.toList, IsPlain (naming name)) <|
    forall_congr' fun _ => imp_congr_left Expr.mem_symbols

/-- Whether a declaration gives a size and lists the texts of as many elements, each in
its place. -/
structure Lists (naming : Naming) (text : String) (size : Nat)
    (element? : Nat → Option (Expr Float)) : Prop where
  declared : declaredSize? text = some size
  counted : (listed text).length = size
  printed : ∀ place < size, ∃ expr, element? place = some expr ∧
    (listed text)[place]? = some (expression naming expr)

section Elements

variable {naming : Naming} {expr : Expr Float} {array : ExprArray Float}

/-- The text of an expression with plain symbols is balanced. -/
theorem balanced_of_hasPlainSymbols (plain : HasPlainSymbols naming expr) :
    Balanced (expression naming expr).toList := by
  refine balanced_expression fun name found => balanced_plain fun character member => ?_
  have noMark := plain name found character member
  refine ⟨?_, ?_, ?_⟩ <;> rintro rfl <;> exact noMark (by decide)

/-- An initializer of expressions with plain symbols has no braces. -/
theorem notMem_initializer (plain : ∀ expr ∈ array.rowMajor, HasPlainSymbols naming expr)
    (present : array.size ≠ 0) {brace : Char} (isBrace : brace ∈ ['\x7b', '\x7d']) :
    brace ∉ initializer naming array := by
  have noWord : Text.isWordPart brace = false ∧ brace ∉ marks := by
    have either : brace = '\x7b' ∨ brace = '\x7d' := by simpa using isBrace
    rcases either with rfl | rfl <;> exact ⟨by decide, by decide⟩
  have unmarked : ∀ character ∈ marks, character ≠ brace :=
    fun character mark same => noWord.2 (same ▸ mark)
  have texts : ∀ expr ∈ array.rowMajor,
      ∀ character ∈ (expression naming expr).toList, character ≠ brace := by
    refine fun expr member => forall_mem_expression ?_ unmarked ?_
    · rintro character part rfl
      exact absurd part (by rw [noWord.1]; exact Bool.false_ne_true)
    · rintro name found character inside rfl
      exact plain expr member name found _ inside
        (List.mem_append_right [',', '(', ')'] isBrace)
  have listed : ∀ character ∈ initializer naming array, character ≠ brace := by
    rw [initializer, ExprArray.written, if_neg present]
    exact forall_mem_intercalate (unmarked ',' (by decide)) (unmarked ' ' (by decide))
      (List.forall_mem_map.2 texts)
  exact fun member => listed brace member rfl

/-- The blank of a separator goes away. -/
theorem withoutBlank_cons (text : List Char) : withoutBlank (' ' :: text) = text :=
  rfl

/-- A declaration of elements with plain symbols lists the texts of these elements. -/
theorem listed_declaration (plain : ∀ expr ∈ array.rowMajor, HasPlainSymbols naming expr)
    (present : array.size ≠ 0) (name : String) :
    listed (declaration naming name array) = array.rowMajor.map (expression naming) := by
  have noBrace {brace : Char} := @notMem_initializer naming array plain present brace
  have after : '\x7b' ∉ initializer naming array ++ "\x7d;".toList :=
    List.not_mem_append (noBrace (by decide)) (by decide)
  have inner : (initializer naming array ++ "\x7d;".toList).takeWhile (· != '\x7d') =
      initializer naming array :=
    takeWhile_ne (noBrace (by decide)) [';']
  have front := afterLast_of after ("const double ".toList ++ (name.toList ++ '[' ::
    sizeText array.size))
  simp only [List.append_assoc, List.cons_append] at front
  unfold listed
  rw [toList_declaration present, front, inner, initializer, ExprArray.written, if_neg present]
  cases elements : array.rowMajor with
  | nil => exact absurd (congrArg List.length elements) present
  | cons first others =>
    rw [elements] at plain
    rw [List.map_cons, pieces_intercalate]
    · simp only [List.map_map, String.ofList_toList, withoutBlank_cons, Function.comp_def]
    · rw [← List.map_cons]
      exact List.forall_mem_map.2 fun expr member => balanced_of_hasPlainSymbols (plain expr member)

/-- A declaration gives the number of its elements. -/
theorem declaredSize?_declaration (plain : ∀ expr ∈ array.rowMajor, HasPlainSymbols naming expr)
    (present : array.size ≠ 0) (name : String) :
    declaredSize? (declaration naming name array) = some array.size := by
  have after : '\x7b' ∉ initializer naming array ++ "\x7d;".toList :=
    List.not_mem_append (notMem_initializer plain present (by decide)) (by decide)
  have brace := beforeLast_of after ("const double ".toList ++ (name.toList ++ '[' ::
    sizeText array.size))
  have noBracket : '[' ∉ sizeText array.size := notMem_sizeText (by decide) (by decide) _
  have bracket := afterLast_of noBracket ("const double ".toList ++ name.toList)
  simp only [List.append_assoc, List.cons_append] at brace bracket
  have isDigit := @Number.isDigit_of_mem_toDigits array.size
  have digits : (sizeText array.size).takeWhile (· != ']') = Nat.toDigits 10 array.size :=
    takeWhile_ne (fun member => absurd (isDigit _ member) (by decide)) " = ".toList
  unfold declaredSize?
  rw [toList_declaration present, brace, bracket, digits]
  simp only
  rw [if_pos ⟨Nat.toDigits_ne_nil, List.all_eq_true.2 isDigit⟩, Nat.ofDigitChars_ten_toDigits]

/-- A declaration lists its elements with plain symbols in their order. -/
theorem lists_declaration (plain : ∀ expr ∈ array.rowMajor, HasPlainSymbols naming expr)
    (present : array.size ≠ 0) (name : String) :
    Lists naming (declaration naming name array) array.size (array.rowMajor[·]?) where
  declared := declaredSize?_declaration plain present name
  counted := by rw [listed_declaration plain present, List.length_map, ExprArray.size]
  printed := by
    intro place within
    refine ⟨array.rowMajor[place], List.getElem?_eq_getElem within, ?_⟩
    rw [listed_declaration plain present, List.getElem?_map, List.getElem?_eq_getElem within]
    rfl

end Elements

/-- A declaration of rows lists what they hold row by row, and one of a vector lists its
elements: it gives their number, and the text between two commas outside parentheses is that
of the expression in this place. So nothing is lost, merged or moved, whatever the array is
called and however its symbols are written without the marks that hold an initializer
together. -/
theorem lists_rows_and_vector (naming : Naming) (name : String) :
    (∀ (rows : List (List (Expr Float))) (columns : Nat), (∀ row ∈ rows, row.length = columns) →
      0 < rows.length * columns → (∀ row ∈ rows, ∀ expr ∈ row, HasPlainSymbols naming expr) →
        ∃ grid, Grid.ofRows rows = .ok grid ∧
          Lists naming (declaration naming name (.matrix grid)) (rows.length * columns)
            fun place => (rows[place / columns]?).bind fun row => row[place % columns]?) ∧
    ∀ elements : List (Expr Float), elements ≠ [] →
      (∀ expr ∈ elements, HasPlainSymbols naming expr) →
        Lists naming (declaration naming name (.vector elements)) elements.length
          (elements[·]?) := by
  constructor
  · intro rows columns regular present plain
    obtain ⟨grid, made, same⟩ := Grid.exists_ofRows regular
    refine ⟨grid, made, ?_⟩
    have flat : (ExprArray.matrix grid).rowMajor = rows.flatten := congrArg List.flatten same
    have size : (ExprArray.matrix grid).size = rows.length * columns := by
      rw [ExprArray.size, flat, Grid.length_flatten regular]
    have inner : ∀ expr ∈ (ExprArray.matrix grid).rowMajor, HasPlainSymbols naming expr := by
      rw [flat]
      intro expr member
      obtain ⟨row, rowMember, found⟩ := List.mem_flatten.1 member
      exact plain row rowMember expr found
    have lists := lists_declaration inner (size ▸ Nat.ne_of_gt present) name
    simp only [flat, size, Grid.getElem?_flatten regular] at lists
    exact lists
  · intro elements present plain
    have size : (ExprArray.vector elements).size ≠ 0 :=
      fun empty => present (List.length_eq_zero_iff.1 empty)
    exact @lists_declaration naming (.vector elements) plain size name

/-- Two rows of calls with commas of their own. -/
def rowsOfCalls : List (List (Expr Float)) :=
  [[.pow (.symbol "v") (.literal 2.0), .symbol "w"],
    [.literal 0.5, .atan2 (.symbol "v") (.neg (.symbol "w"))]]

/-- Commas within calls separate no elements, an entry of the state is written with brackets,
and an array may have a name that looks like a declaration. -/
theorem lists_rows_and_vector_of_calls :
    (∃ grid, Grid.ofRows rowsOfCalls = .ok grid ∧
      Lists (stateNaming "x" ["w"])
        (declaration (stateNaming "x" ["w"]) "m[9] = \x7b0, " (.matrix grid)) 4
        fun place => (rowsOfCalls[place / 2]?).bind fun row => row[place % 2]?) ∧
      Lists (stateNaming "x" ["w"])
        (declaration (stateNaming "x" ["w"]) "m[9] = \x7b0, " (.vector rowsOfCalls.flatten)) 4
        (rowsOfCalls.flatten[·]?) := by
  obtain ⟨ofRows, ofVector⟩ := lists_rows_and_vector (stateNaming "x" ["w"]) "m[9] = \x7b0, "
  exact ⟨ofRows rowsOfCalls 2 (by decide) (by decide) (by decide),
    ofVector rowsOfCalls.flatten (List.cons_ne_nil _ _) (by decide)⟩

end KalmanHeader.Reader
