import KalmanHeader.C.Declaration
import KalmanHeader.Header.Names

/-!
# The text of a header

A header defines the dimension macros and one function. The function declares
each array as a constant and copies it to a parameter of its own. C has no
arrays without elements, so a parameter for one still has the extent one, and
nothing is copied to it.
-/

namespace KalmanHeader

/-- An extent of an array parameter. -/
inductive Extent where
  /-- The macro for the number of state symbols. -/
  | state
  /-- The macro for the number of observations. -/
  | observation
  | fixed (size : Nat)
  deriving DecidableEq, Repr

namespace Extent

/-- The extent `macroExtent`, whose macro stands for `size`, unless that is
zero. -/
def ofSize (macroExtent : Extent) (size : Nat) : Extent :=
  if size = 0 then .fixed 1 else macroExtent

/-- The extent in brackets. -/
def text (options : HeaderOptions) : Extent → String
  | .state => "[" ++ options.stateMacro ++ "]"
  | .observation => "[" ++ options.observationMacro ++ "]"
  | .fixed size => "[" ++ toString size ++ "]"

end Extent

/-- An array of the function and the extents of the parameter it is copied to. -/
structure OutputArray where
  name : String
  array : ExprArray Float
  /-- How many elements there are to copy. -/
  size : Nat
  extents : List Extent
  deriving DecidableEq

namespace OutputArray

/-- The declaration of the output parameter. -/
def parameter (options : HeaderOptions) (output : OutputArray) : String :=
  "double " ++ outputName output.name ++ String.join (output.extents.map (Extent.text options))

/-- The line that copies the array to its parameter. -/
def copyLine (output : OutputArray) : String :=
  "    memcpy(" ++ outputName output.name ++ ", " ++ output.name ++ ", sizeof(" ++ output.name ++
    "));\n"

/-- The line that declares the array. -/
def declarationLine (naming : C.Naming) (output : OutputArray) : String :=
  "    " ++ C.declaration naming output.name output.array ++ "\n"

end OutputArray

/-- All that a header says. -/
structure HeaderLayout where
  fileName : String
  options : HeaderOptions
  guard : String
  /-- The names of the state symbols. -/
  state : List String
  observationCount : Nat
  outputs : List OutputArray
  /-- The free parameters. -/
  parameters : NameSet
  deriving DecidableEq

namespace HeaderLayout

/-- The comment in the first line. -/
def banner (layout : HeaderLayout) : String :=
  if layout.fileName.isEmpty then "/* Generated by ekfgen. Do not edit. */"
  else "/* " ++ layout.fileName ++ ": generated by ekfgen. Do not edit. */"

/-- The declarations of the parameters of the function. -/
def signature (layout : HeaderLayout) : List String :=
  ("const double x" ++ (Extent.ofSize .state layout.state.length).text layout.options) ::
    layout.outputs.map (OutputArray.parameter layout.options) ++
    layout.parameters.toList.map ("double " ++ ·)

/-- How the symbols of the arrays are written. -/
def naming (layout : HeaderLayout) : C.Naming :=
  C.stateNaming "x" layout.state

/-- The arrays that are copied. -/
def copiedOutputs (layout : HeaderLayout) : List OutputArray :=
  layout.outputs.filter fun output => 0 < output.size

/-- The lines between the braces of the function. -/
def body (layout : HeaderLayout) : String :=
  String.join (layout.outputs.map (OutputArray.declarationLine layout.naming)) ++ "\n" ++
    String.join (layout.copiedOutputs.map OutputArray.copyLine)

/-- The text from the include guard on. -/
def code (layout : HeaderLayout) : String :=
  "#ifndef " ++ layout.guard ++ "\n#define " ++ layout.guard ++
    "\n\n#include <math.h>\n#include <string.h>\n\n#define " ++ layout.options.stateMacro ++ " " ++
    toString layout.state.length ++ "\n#define " ++ layout.options.observationMacro ++ " " ++
    toString layout.observationCount ++ "\n\n#include \"" ++ layout.options.libraryInclude ++
    "\"\n\nstatic void " ++ layout.options.functionName ++ "(" ++
    C.separator.intercalate layout.signature ++ ")\n\x7b\n" ++ layout.body ++
    "\x7d\n\n#endif /* " ++ layout.guard ++ " */\n"

/-- The text of the header. -/
def text (layout : HeaderLayout) : String :=
  layout.banner ++ "\n\n" ++ layout.code

end HeaderLayout

end KalmanHeader
